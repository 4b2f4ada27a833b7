import DashboardRefresh.Proofs.Fetch.Verdicts
import DashboardRefresh.Proofs.Time.CivilDates
import DashboardRefresh.Proofs.Widget.Agreement

/-!
# How updates end

Which outcome an update reports and which data it stores, said by the answers to its requests and
without the pool that sends them: a calendar succeeds, a monitor succeeds whatever its sites answer,
a custom API needs the one document it asks for, and releases are judged by how many lookups
succeed. A shutdown takes the content away from every update that would have to fetch something.
-/

namespace DashboardRefresh

namespace Surroundings

/-- The dashboard was being shut down before the update began. -/
def isCancelled (s : Surroundings) : Bool := s.cancellation == .before

/-- It is settled before the update begins whether it is cancelled. -/
def IsSettled (s : Surroundings) : Prop := s.cancellation = .never ∨ s.cancellation = .before

/-- The clock shows an instant fifteen days inside the range, and local time is a time on Earth. -/
structure Shows (s : Surroundings) (now : Instant) : Prop where
  read_eq : s.clock.read = .ok now
  isInner : now.IsInner
  isZone : IsZoneOffset s.offset

variable {s : Surroundings} {now : Instant}

/-- An inner clock that has not been set to a time before the epoch can be read. -/
theorem exists_shows (hclock : s.clock.IsInner) (hepoch : 0 ≤ s.clock.nanos)
    (hzone : IsZoneOffset s.offset) : ∃ now, s.Shows now ∧ now.nanos = s.clock.nanos := by
  have hmargin : 0 ≤ Instant.margin := by decide
  have hinner := hclock
  obtain ⟨hearliest, hlatest⟩ := hclock
  let now : Instant := ⟨s.clock.nanos, by omega, by omega⟩
  have hread : s.clock.read = .ok now := Clock.read_setTo (i := now) hepoch
  exact ⟨now, ⟨hread, hinner.of_read hread, hzone⟩, rfl⟩

end Surroundings

/-! ## What the answers say -/

/-- The document that a custom API answers with: the status is 200, and the text a JSON document. -/
def ApiConfig.document? (api : ApiConfig) (s : Surroundings) : Option Json :=
  match api.request s.requestTimeout with
  | .error _ => none
  | .ok r =>
    if r.url.isSendable then
      match s.network r with
      | .response 200 body => (Json.read? (Text.ofMarked body)).map (·.canonical)
      | _ => none
    else none

/-- The monitor after a check of all its sites. -/
def Monitor.checked (m : Monitor) (network : Network) : Monitor :=
  { m with
    sites := m.sites.map fun site =>
      { site with status := some (site.config.check network).result } }

/-- What the lookups of all entries give. -/
def ReleaseList.results (l : ReleaseList) (s : Surroundings) : List (Except FetchError Release) :=
  l.entries.map fun e => (e.lookup l.endpoints s.network s.requestTimeout).result

namespace Content

/-- How an update of the content ends. -/
def verdict (s : Surroundings) : Content → Verdict
  | html _ => .success
  | calendar .. => .success
  | monitor m => if s.isCancelled ∧ m.sites ≠ [] then .totalFailure else .success
  | customApi api _ =>
    if s.isCancelled = false ∧ (api.document? s).isSome then .success else .totalFailure
  | releases l => if s.isCancelled then .totalFailure else .ofResults (l.results s)

/-- The content with all of its data new. -/
def refreshed (s : Surroundings) (now : Instant) : Content → Content
  | html source => html source
  | calendar startSunday _ =>
    calendar startSunday (CalendarGrid.atInstant startSunday s.offset now).toOption
  | monitor m => monitor (m.checked s.network)
  | customApi api _ => customApi api (api.document? s)
  | releases l =>
    releases { l with
      releases := ReleaseList.select l.limit ((l.results s).filterMap (·.toOption)) }

/-- The content without any data that an update has stored. -/
def cleared : Content → Content
  | html source => html source
  | calendar startSunday _ => calendar startSunday none
  | monitor m => monitor { m with sites := m.sites.map fun site => { site with status := none } }
  | customApi api _ => customApi api none
  | releases l => releases { l with releases := [] }

/-- No data that were stored before are left in refreshed content. -/
theorem refreshed_cleared (content : Content) (s : Surroundings) (now : Instant) :
    content.cleared.refreshed s now = content.refreshed s now := by
  cases content with
  | monitor m => simp [cleared, refreshed, Monitor.checked, Function.comp_def]
  | html | calendar | customApi | releases => rfl

end Content

/-- The outcome and the content of a cycle are those that the answers call for. -/
structure Cycle.Ends (s : Surroundings) (now : Instant) (content : Content) (c : Cycle) : Prop where
  verdict_eq : c.outcome.verdict = content.verdict s
  content_eq : c.outcome.keepsData → c.content = content.refreshed s now

namespace Content

variable {s : Surroundings} {now : Instant}

theorem calendarCycle_ends (startSunday : Bool) (grid : Option CalendarGrid) (hs : s.Shows now) :
    ∃ c, calendarCycle startSunday s = .ok c ∧ c.Ends s now (calendar startSunday grid) := by
  obtain ⟨drawn, hdrawn⟩ := CalendarGrid.exists_atInstant startSunday hs.isInner hs.isZone
  refine ⟨⟨.success, calendar startSunday (some drawn), true, [], 0, false⟩, ?_, rfl, fun _ => ?_⟩
  · unfold calendarCycle
    rw [hs.read_eq]
    change (CalendarGrid.atInstant startSunday s.offset now >>= fun grid =>
      (.ok ⟨.success, calendar startSunday (some grid), true, [], 0, false⟩ :
        Except OutOfRange Cycle)) = _
    rw [hdrawn]
    rfl
  · rw [refreshed, hdrawn]
    rfl

/-! ## Monitors -/

theorem store_showFailingOnly (m : Monitor) (b : Batch FetchError SiteStatus) :
    (m.store b).showFailingOnly = m.showFailingOnly := by
  have hfold (results : List (Nat × Except FetchError SiteStatus)) (m : Monitor) :
      (results.foldl Monitor.storeStatus m).showFailingOnly = m.showFailingOnly := by
    induction results generalizing m with
    | nil => rfl
    | cons result results ih => exact ih (m.storeStatus result)
  exact hfold b.results m

/-- What comes of storing a batch that holds a status for every site. -/
theorem store_eq_of_slotAt {m checked : Monitor} {b : Batch FetchError SiteStatus}
    {status : Nat → MonitoredSite → SiteStatus}
    (hslots : ∀ i site, m.sites[i]? = some site → b.slotAt i = some (.ok (status i site)))
    (hchecked : ∀ i : Nat, checked.sites[i]? =
      m.sites[i]?.map fun site => { site with status := some (status i site) })
    (hflag : checked.showFailingOnly = m.showFailingOnly) : m.store b = checked := by
  have hsites : (m.store b).sites = checked.sites := by
    apply List.ext_getElem?
    intro i
    rw [Monitor.store_sites_getElem?, hchecked]
    cases hsite : m.sites[i]? with
    | none => rfl
    | some site =>
      rw [Option.map_some, Option.map_some, hslots i site hsite]
      rfl
  calc
    m.store b = ⟨(m.store b).sites, (m.store b).showFailingOnly⟩ := rfl
    _ = ⟨checked.sites, checked.showFailingOnly⟩ := by rw [hsites, store_showFailingOnly, hflag]
    _ = checked := rfl

/-- Storing a batch of checks that was not interrupted checks all sites. -/
theorem store_check_eq {m : Monitor} {network : Network} {cancellation : Cancellation}
    (hnone : (m.check network cancellation).batch.interrupted = none) :
    m.store (m.check network cancellation).batch = m.checked network :=
  store_eq_of_slotAt (fun _ _ hsite => Monitor.slotAt_check hnone hsite)
    (fun _ => List.getElem?_map) rfl

/-- The verdict on a batch of checks that was not interrupted is success: a site that is down is
no failure of its check. -/
theorem verdict_check {m : Monitor} {network : Network} {cancellation : Cancellation}
    (hnone : (m.check network cancellation).batch.interrupted = none) :
    (Outcome.ofResult ((m.check network cancellation).batch.classify "site checks")).verdict =
      .success := by
  rw [Batch.verdict_classify hnone, Monitor.check_failedCount hnone, if_pos rfl]

theorem monitorCycle_ends (m : Monitor) (hs : s.IsSettled) :
    (monitorCycle m s).Ends s now (monitor m) := by
  have hsettled (hnone : (m.check s.network s.cancellation).batch.interrupted = none)
      (hverdict : (monitor m).verdict s = .success) :
      (monitorCycle m s).Ends s now (monitor m) :=
    ⟨(verdict_check hnone).trans hverdict.symm, fun _ => congrArg monitor (store_check_eq hnone)⟩
  rcases hs with hnever | hbefore
  · apply hsettled
    · rw [hnever]
      exact runAttempts_never_interrupted
    · simp [verdict, Surroundings.isCancelled, hnever]
  · by_cases hsites : m.sites = []
    · apply hsettled
      · unfold Monitor.check
        rw [hsites]
        exact runAttempts_nil s.cancellation
      · simp [verdict, hsites]
    · have hinterrupted : (m.check s.network s.cancellation).batch.interrupted ≠ none := by
        rw [hbefore]
        exact runAttempts_before_interrupted (by simpa using hsites)
      have htotal : (monitorCycle m s).outcome.verdict = .totalFailure :=
        Batch.verdict_classify_of_interrupted hinterrupted
      refine ⟨?_, fun hkeeps => absurd htotal ((Outcome.keepsData_iff _).1 hkeeps)⟩
      rw [htotal]
      simp [verdict, Surroundings.isCancelled, hbefore, hsites]

/-! ## Releases -/

theorem releasesCycle_ends (l : ReleaseList) (hvalid : (releases l).IsValid) (hs : s.IsSettled) :
    (releasesCycle l s).Ends s now (releases l) := by
  have hresults : (l.entries.map fun e => e.lookup l.endpoints s.network s.requestTimeout).map
      (·.result) = l.results s := by
    rw [List.map_map]
    rfl
  rcases hs with hnever | hbefore
  · have hnone : (l.lookUp s.network s.requestTimeout s.cancellation).batch.interrupted = none := by
      rw [hnever]
      exact runAttempts_never_interrupted
    constructor
    · change (Outcome.ofResult ((l.lookUp s.network s.requestTimeout s.cancellation).batch.classify
        "releases")).verdict = _
      unfold ReleaseList.lookUp at hnone ⊢
      rw [runAttempts_verdict "releases" hnone, hresults]
      simp [verdict, Surroundings.isCancelled, hnever]
    · intro _
      change releases (l.store (l.lookUp s.network s.requestTimeout s.cancellation).batch) = _
      unfold ReleaseList.lookUp at hnone ⊢
      rw [ReleaseList.store, runAttempts_kept hnone, hresults]
      rfl
  · have hinterrupted :
        (l.lookUp s.network s.requestTimeout s.cancellation).batch.interrupted ≠ none := by
      rw [hbefore]
      exact runAttempts_before_interrupted (by simpa using hvalid.1)
    have htotal : (releasesCycle l s).outcome.verdict = .totalFailure :=
      Batch.verdict_classify_of_interrupted hinterrupted
    refine ⟨?_, fun hkeeps => absurd htotal ((Outcome.keepsData_iff _).1 hkeeps)⟩
    rw [htotal]
    simp [verdict, Surroundings.isCancelled, hbefore]

/-! ## Custom APIs -/

/-- The document of a custom API is the value that its request fetches. -/
theorem toOption_fetch (api : ApiConfig) (s : Surroundings) :
    (api.fetch s).result.toOption = api.document? s := by
  unfold ApiConfig.document? ApiConfig.fetch
  cases api.request s.requestTimeout with
  | error e => rfl
  | ok r =>
    change (readAnswer r.url _ (r.fetch s.network).result).toOption = _
    unfold Request.fetch Request.send
    split
    · rename_i hsendable
      simp only [hsendable, if_true]
      cases s.network r with
      | response status body =>
        by_cases hstatus : status = 200
        · subst hstatus
          cases hread : Json.read? (Text.ofMarked body) <;>
            simp [Attempt.whole, Except.map, readAnswer, hread, Except.toOption]
        · simp [Attempt.whole, Except.map, readAnswer, hstatus, Except.toOption]
      | brokenOff | stalls | closed | hangs | unreachable => rfl
    · rename_i hsendable
      simp only [hsendable]
      rfl

/-- What is fetched without the network is an error at once: the request cannot be made. -/
theorem fetch_of_offline {api : ApiConfig} (h : (api.fetch s).connected = false) :
    ∃ e, api.fetch s = .offline (.error e) := by
  unfold ApiConfig.fetch at h ⊢
  cases hrequest : api.request s.requestTimeout with
  | error fault => exact ⟨_, rfl⟩
  | ok r =>
    rw [hrequest] at h
    change (r.fetch s.network).connected = false at h
    change ∃ e, (r.fetch s.network).map (readAnswer r.url _) = _
    unfold Request.fetch Request.send at h ⊢
    split
    · rename_i hsendable
      rw [if_pos hsendable] at h
      cases hanswer : s.network r <;> rw [hanswer] at h <;> cases h
    · exact ⟨_, rfl⟩

theorem fetchedCycle_outcome {api : ApiConfig} {document : Option Json} {e : FetchError}
    (h : (api.fetch s).result = .error e) :
    (fetchedCycle api document (api.fetch s)).outcome = .totalFailure e := by
  simp [fetchedCycle, h, Except.map, Outcome.ofResult, isPartial_of_fetchDocument h]

/-- The cycle of a custom API whose update was cancelled before its start is a total failure,
whichever error is the first. -/
theorem apiCycle_before_outcome (api : ApiConfig) (document : Option Json) (answerCounts : Bool)
    (hbefore : s.cancellation = .before) :
    ∃ e, (apiCycle api document s answerCounts).outcome = .totalFailure e := by
  unfold apiCycle
  rw [hbefore]
  dsimp only
  split
  · rename_i hanswered
    rw [Bool.and_eq_true, Bool.not_eq_true'] at hanswered
    obtain ⟨e, hfetch⟩ := fetch_of_offline hanswered.1
    exact ⟨e, fetchedCycle_outcome (congrArg Attempt.result hfetch)⟩
  · exact ⟨_, rfl⟩

theorem apiCycle_ends (api : ApiConfig) (document : Option Json) (answerCounts : Bool)
    (hs : s.IsSettled) :
    (apiCycle api document s answerCounts).Ends s now (customApi api document) := by
  have hdocument := toOption_fetch api s
  rcases hs with hnever | hbefore
  · have hcycle : apiCycle api document s answerCounts =
        fetchedCycle api document (api.fetch s) := by
      simp [apiCycle, hnever]
    rw [hcycle]
    cases hresult : (api.fetch s).result with
    | ok j =>
      have hsome : api.document? s = some j := by
        rw [← hdocument, hresult]
        rfl
      unfold fetchedCycle
      rw [hresult]
      refine ⟨?_, fun _ => ?_⟩
      · simp [verdict, Surroundings.isCancelled, hnever, hsome, Except.map, Outcome.ofResult,
          Outcome.verdict]
      · simp [refreshed, hsome]
    | error e =>
      have hnone : api.document? s = none := by
        rw [← hdocument, hresult]
        rfl
      refine ⟨?_, fun hkeeps => ?_⟩
      · simp [fetchedCycle_outcome hresult, verdict, hnone, Outcome.verdict]
      · rw [fetchedCycle_outcome hresult] at hkeeps
        cases hkeeps
  · obtain ⟨e, houtcome⟩ := apiCycle_before_outcome api document answerCounts hbefore
    refine ⟨?_, fun hkeeps => ?_⟩
    · simp [houtcome, verdict, Surroundings.isCancelled, hbefore, Outcome.verdict]
    · rw [houtcome] at hkeeps
      cases hkeeps

/-- All but static content has a cycle, whenever it is cancelled. -/
theorem exists_cycle {content : Content} (answerCounts : Bool) (hkind : content.kind ≠ .html)
    (hs : s.Shows now) : ∃ c, content.cycle s answerCounts = some (.ok c) := by
  cases content with
  | html source => exact absurd rfl hkind
  | calendar startSunday grid =>
    obtain ⟨c, hc, _⟩ := calendarCycle_ends startSunday grid hs
    exact ⟨c, congrArg some hc⟩
  | monitor | customApi | releases => exact ⟨_, rfl⟩

/-- Its cycle ends as the answers call for, if it is settled whether it is cancelled. -/
theorem cycle_ends {content : Content} {answerCounts : Bool} {c : Cycle} (hvalid : content.IsValid)
    (hs : s.Shows now) (hsettled : s.IsSettled)
    (hcycle : content.cycle s answerCounts = some (.ok c)) : c.Ends s now content := by
  cases content with
  | html source => cases hcycle
  | calendar startSunday grid =>
    obtain ⟨c', hc', hends⟩ := calendarCycle_ends startSunday grid hs
    obtain rfl : c' = c := Except.ok.inj (hc'.symm.trans (Option.some.inj hcycle))
    exact hends
  | monitor m =>
    cases hcycle
    exact monitorCycle_ends m hsettled
  | customApi api document =>
    cases hcycle
    exact apiCycle_ends api document answerCounts hsettled
  | releases l =>
    cases hcycle
    exact releasesCycle_ends l hvalid hsettled

end Content

/-! ## Leaves -/

namespace Leaf

/-- What every leaf keeps that was once built from an entry: valid content, and a policy that asks
for updates unless the content is static. -/
structure WellFormed (l : Leaf) : Prop where
  isValid : l.content.IsValid
  isNever_iff : l.base.refresh.policy.isNever ↔ l.kind = .html

variable {l : Leaf} {s : Surroundings} {now : Instant}

/-- No update takes that away, whatever it meets. -/
theorem WellFormed.update (hl : l.WellFormed) (s : Surroundings) :
    (l.update s).leaf.WellFormed := by
  unfold Leaf.update
  cases hcycle : l.cycle s with
  | none => exact hl
  | some r =>
    cases r with
    | error => exact hl
    | ok c =>
      have hc : c.Completes l.content := Content.cycle_completes hl.isValid hcycle
      unfold finish
      dsimp only
      cases s.clock.read with
      | error => exact hl
      | ok now =>
        dsimp only
        refine ⟨?_, ?_⟩
        · dsimp only
          split
          · exact hc.isValid
          · exact hl.isValid
        · rw [kind]
          dsimp only
          rw [RefreshState.report_policy, hl.isNever_iff, kind]
          split
          · rw [hc.kind_eq]
          · rfl

/-- An update of a leaf that is not static reports one outcome and comes to its end. -/
theorem update_eq_reported (hkind : l.kind ≠ .html) (hs : s.Shows now) :
    ∃ c, l.cycle s = some (.ok c) ∧
      l.update s = ⟨l.reported s.offset c now, c.sent, c.waited, c.connected, false⟩ := by
  obtain ⟨c, hcycle⟩ := Content.exists_cycle (s.answerCounts l.base.id) hkind hs
  have hcomplete := l.base.refresh.report_complete c.outcome s.offset hs.isInner
  refine ⟨c, hcycle, ?_⟩
  unfold update cycle
  rw [hcycle]
  dsimp only
  unfold finish
  rw [hs.read_eq]
  simp [hcomplete, reported]

/-- An update of static content does nothing. -/
theorem update_of_html (hkind : l.kind = .html) (s : Surroundings) :
    l.update s = l.unchanged false := by
  obtain ⟨base, content⟩ := l
  cases content with
  | html => rfl
  | calendar | monitor | customApi | releases => cases hkind

/-- An update under a clock that cannot be read changes nothing. -/
theorem update_leaf_of_read_eq_error {e : OutOfRange} (h : s.clock.read = .error e) :
    (l.update s).leaf = l := by
  unfold update
  cases l.cycle s with
  | none => rfl
  | some r =>
    cases r with
    | error => rfl
    | ok c =>
      dsimp only
      unfold finish
      rw [h]

end Leaf

/-- All leaves of the widget are well formed. -/
def Widget.WellFormed (w : Widget) : Prop := ∀ l ∈ w.leaves, l.WellFormed

end DashboardRefresh
