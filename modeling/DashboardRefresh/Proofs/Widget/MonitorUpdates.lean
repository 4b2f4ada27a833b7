import DashboardRefresh.Proofs.Board.UpdateCycle
import DashboardRefresh.Proofs.Widget.Arrivals
import DashboardRefresh.Proofs.Widget.SiteRecords

/-!
# Updates of monitors

A monitor keeps its sites through all updates. After an update that was not interrupted each site
has the status that the answer to its own request calls for, and text, style and link agree with
that status and with the site's own codes and URLs. Nothing of earlier updates is left, so that a
site links to its usual URL again once it answers.
-/

namespace DashboardRefresh

/-! ## What a status says -/

namespace SiteStatus

variable {s : SiteStatus} {altCodes : List Nat}

/-- The code is 200 or one of some others. -/
def HasGoodCode (s : SiteStatus) (altCodes : List Nat) : Prop :=
  ∃ code, s.code = some code ∧ (code = 200 ∨ code ∈ altCodes)

/-- There is an error, or a code of at least 400 that is none of some others. -/
def IsBad (s : SiteStatus) (altCodes : List Nat) : Prop :=
  s.error.isSome ∨ ∃ code, s.code = some code ∧ 400 ≤ code ∧ code ∉ altCodes

theorem isOk_iff : s.isOk altCodes ↔ s.HasGoodCode altCodes := by
  unfold isOk HasGoodCode
  cases s.code <;> simp

theorem style_eq_ok_iff : s.style altCodes = "ok" ↔ s.HasGoodCode altCodes := by
  rw [← isOk_iff]
  unfold style
  split <;> simp [*]

/-- A code in digits is not the word for a site in order. -/
theorem toString_ne_ok (code : Nat) : toString code ≠ "OK" := by
  intro h
  have hdigits : Nat.toDigits 10 code = ['O', 'K'] := by
    simpa [Nat.toString_eq_repr, Nat.toList_repr] using congrArg String.toList h
  have hdigit : 'O'.isDigit := Nat.isDigit_of_mem_toDigits (b := 10) (n := code) (by decide)
    (by decide) (by rw [hdigits]; exact List.mem_cons_self)
  exact absurd hdigit (by decide)

theorem text_eq_ok_iff : s.text altCodes = "OK" ↔ s.HasGoodCode altCodes := by
  rw [← isOk_iff]
  unfold text
  by_cases hok : s.isOk altCodes
  · simp [hok]
  · rw [if_neg hok]
    refine ⟨fun htext => absurd htext ?_, fun h => absurd h hok⟩
    cases s.code with
    | none =>
      dsimp only
      split <;> decide
    | some code =>
      dsimp only
      repeat' split
      any_goals decide
      exact toString_ne_ok code

/-- A status with an error or a code fails if it is bad. -/
theorem isFailing_iff (hcode : s.code = none → s.error.isSome) :
    s.isFailing altCodes ↔ s.IsBad altCodes := by
  unfold isFailing IsBad
  cases hs : s.code with
  | none => simp [hcode hs]
  | some code => simp

/-- Only an error makes a status bad whose code is good. -/
theorem HasGoodCode.not_isBad (hgood : s.HasGoodCode altCodes) (herror : ¬ s.error.isSome) :
    ¬ s.IsBad altCodes := by
  obtain ⟨code, hcode, hgood⟩ := hgood
  rintro (hsome | ⟨code', hcode', hhigh, hnot⟩)
  · exact herror hsome
  · obtain rfl : code = code' := Option.some.inj (hcode.symm.trans hcode')
    rcases hgood with rfl | hmem
    · omega
    · exact hnot hmem

end SiteStatus

/-! ## Requests of checks -/

/-- The request is to get what is at a URL. A user name and a password may have gone from the URL to
a header. -/
def Request.Gets (r : Request) (u : Url) : Prop :=
  r.method = .get ∧
    { r.url with username := "", password := none } = { u with username := "", password := none }

theorem Request.gets_of_ofUrl {u : Url} {timeout : Duration} {r : Request}
    (h : Request.ofUrl .get u timeout = .ok r) : r.Gets u := by
  unfold ofUrl at h
  split at h
  · cases h
  · split at h <;> cases h <;> exact ⟨rfl, rfl⟩

/-- The status at the head of an answer. -/
def Answer.status? : Answer → Option Nat
  | response status _ | brokenOff status | stalls status => some status
  | closed | hangs | unreachable => none

namespace SiteConfig

variable {site : SiteConfig} {network : Network}

/-- The check of the site is answered with a code: it asks for the check URL, or else for the URL of
the site, and the network has an answer, whatever comes of its body. -/
def IsAnswered (site : SiteConfig) (network : Network) (code : Nat) : Prop :=
  ∃ u r, Url.parse (site.checkUrl.getD site.url) = .ok u ∧ site.request = .ok r ∧ r.Gets u ∧
    r.url.isSendable ∧ (network r).status? = some code

theorem request_gets {r : Request} (h : site.request = .ok r) :
    ∃ u, Url.parse (site.checkUrl.getD site.url) = .ok u ∧ r.Gets u := by
  unfold request at h
  cases hmade : Request.ofText .get (site.checkUrl.getD site.url) site.checkTimeout with
  | error e =>
    rw [hmade] at h
    cases h
  | ok plain =>
    rw [hmade] at h
    unfold Request.ofText at hmade
    split at hmade
    · rename_i u hu
      refine ⟨u, hu, ?_⟩
      have hplain : plain.Gets u := Request.gets_of_ofUrl hmade
      cases hcredentials : site.credentials <;> rw [hcredentials] at h <;> cases h <;> exact hplain
    · cases hmade

/-- A check that is answered has the code of the answer and nothing else. -/
theorem check_of_isAnswered {code : Nat} (h : site.IsAnswered network code) :
    (site.check network).result = ⟨some code, false, 0, none⟩ := by
  obtain ⟨_, r, _, hrequest, _, hsendable, hstatus⟩ := h
  unfold check
  rw [hrequest]
  cases hanswer : network r with
  | response | brokenOff | stalls =>
    rw [hanswer] at hstatus
    cases hstatus
    simp [Request.send, hsendable, hanswer, statusOf]
  | closed | hangs | unreachable =>
    rw [hanswer] at hstatus
    cases hstatus

/-- A check that is not answered has an error and no code. -/
theorem check_of_not_isAnswered (h : ∀ code, ¬ site.IsAnswered network code) :
    (site.check network).result.code = none ∧ (site.check network).result.error.isSome := by
  unfold check
  cases hrequest : site.request with
  | error e => exact ⟨rfl, rfl⟩
  | ok r =>
    obtain ⟨u, hu, hgets⟩ := request_gets hrequest
    dsimp only
    unfold Request.send
    by_cases hsendable : r.url.isSendable
    · rw [if_pos hsendable]
      have hstatus : (network r).status? = none := Option.eq_none_iff_forall_ne_some.2
        fun code hcode => h code ⟨u, r, hu, hrequest, hgets, hsendable, hcode⟩
      cases hanswer : network r with
      | response | brokenOff | stalls =>
        rw [hanswer] at hstatus
        cases hstatus
      | closed | hangs | unreachable => exact ⟨rfl, rfl⟩
    · rw [if_neg hsendable]
      exact ⟨rfl, rfl⟩

theorem code_check_iff {code : Nat} :
    (site.check network).result.code = some code ↔ site.IsAnswered network code := by
  refine ⟨fun hsome => ?_, fun h => by rw [check_of_isAnswered h]⟩
  by_cases hanswered : ∃ code', site.IsAnswered network code'
  · obtain ⟨code', h⟩ := hanswered
    rw [check_of_isAnswered h] at hsome
    obtain rfl : code' = code := Option.some.inj hsome
    exact h
  · rw [(check_of_not_isAnswered (not_exists.1 hanswered)).1] at hsome
    cases hsome

theorem error_check_iff :
    (site.check network).result.error.isSome ↔ ∀ code, ¬ site.IsAnswered network code := by
  refine ⟨fun hsome code h => ?_, fun h => (check_of_not_isAnswered h).2⟩
  rw [check_of_isAnswered h] at hsome
  cases hsome

end SiteConfig

/-! ## Sites after a check -/

/-- The site has a status, the status is what the answer to the request of the site calls for, and
all that the site shows agrees with it. -/
structure MonitoredSite.Reflects (network : Network) (site : MonitoredSite)
    (status : SiteStatus) : Prop where
  status_eq : site.status = some status
  code_iff : ∀ code, status.code = some code ↔ site.config.IsAnswered network code
  error_iff : status.error.isSome ↔ ∀ code, ¬ site.config.IsAnswered network code
  unanswered_of_timedOut : status.timedOut → ∀ code, ¬ site.config.IsAnswered network code
  style_iff : site.statusStyle = "ok" ↔ status.HasGoodCode site.config.altStatusCodes
  text_iff : site.statusText = "OK" ↔ status.HasGoodCode site.config.altStatusCodes
  isFailing_iff : site.isFailing ↔ status.IsBad site.config.altStatusCodes
  style_of_isFailing : site.isFailing → site.statusStyle ≠ "ok"
  link_eq : site.link =
    if status.error.isSome then site.config.errorUrl.getD site.config.url else site.config.url

theorem MonitoredSite.link_eq {site : MonitoredSite} {status : SiteStatus}
    (h : site.status = some status) :
    site.link =
      if status.error.isSome then site.config.errorUrl.getD site.config.url
      else site.config.url := by
  unfold link
  rw [h, Option.bind_some]
  cases status.error <;> cases site.config.errorUrl <;> rfl

/-- A site reflects what its own check gives, after whatever time. -/
theorem SiteConfig.reflects_checkArriving (site : SiteConfig) (network : Network) (millis : Nat) :
    MonitoredSite.Reflects network ⟨site, some (site.checkArriving network millis).result⟩
      (site.checkArriving network millis).result := by
  -- The time is no part of the code and of the error.
  have hcode (code : Nat) : (site.checkArriving network millis).result.code = some code ↔
      site.IsAnswered network code := code_check_iff
  have herror : (site.checkArriving network millis).result.error.isSome ↔
      ∀ code, ¬ site.IsAnswered network code := error_check_iff
  have hfailing :
      (⟨site, some (site.checkArriving network millis).result⟩ : MonitoredSite).isFailing ↔
        (site.checkArriving network millis).result.IsBad site.altStatusCodes := by
    refine SiteStatus.isFailing_iff fun hnone => herror.2 fun code h => ?_
    rw [(hcode code).2 h] at hnone
    cases hnone
  refine ⟨rfl, hcode, herror, fun htimedOut code h => ?_, SiteStatus.style_eq_ok_iff,
    SiteStatus.text_eq_ok_iff, hfailing, fun hbad hok => ?_, MonitoredSite.link_eq rfl⟩
  · have hnever : (site.check network).result.timedOut = false := by
      rw [check_of_isAnswered h]
    exact absurd htimedOut (by simp [checkArriving, SiteStatus.timed, hnever])
  · have hgood : (site.checkArriving network millis).result.HasGoodCode site.altStatusCodes :=
      SiteStatus.style_eq_ok_iff.1 hok
    have ⟨code, hgoodCode, _⟩ := hgood
    exact hgood.not_isBad (fun hsome => herror.1 hsome code ((hcode code).1 hgoodCode))
      (hfailing.1 hbad)

namespace Monitor

/-- The monitor is one of the given sites, each reflecting the answer to its own request, and the
flag of the monitor says whether the status of any of them is bad. -/
structure ReflectsAll (network : Network) (configs : List SiteConfig) (m : Monitor) : Prop where
  configs_eq : m.configs = configs
  exists_reflects : ∀ site ∈ m.sites, ∃ status, site.Reflects network status
  hasFailing_iff : m.hasFailing ↔
    ∃ site ∈ m.sites, ∃ status, site.status = some status ∧
      status.IsBad site.config.altStatusCodes

theorem checkedArriving_configs (m : Monitor) (times : Nat → Nat) (network : Network) :
    (m.checkedArriving times network).configs = m.configs := by
  apply List.ext_getElem?
  intro i
  rw [configs, configs, checkedArriving, List.getElem?_map, List.getElem?_mapIdx,
    List.getElem?_map, Option.map_map]
  rfl

theorem checkedArriving_reflectsAll (m : Monitor) (times : Nat → Nat) (network : Network) :
    (m.checkedArriving times network).ReflectsAll network m.configs := by
  have hreflects : ∀ site ∈ (m.checkedArriving times network).sites,
      ∃ status, site.Reflects network status := by
    intro site hsite
    obtain ⟨i, _, rfl⟩ := List.mem_mapIdx.1 hsite
    exact ⟨_, SiteConfig.reflects_checkArriving _ network (times i)⟩
  refine ⟨m.checkedArriving_configs times network, hreflects, ?_⟩
  rw [hasFailing, List.any_eq_true]
  constructor
  · rintro ⟨site, hsite, hfailing⟩
    obtain ⟨status, h⟩ := hreflects site hsite
    exact ⟨site, hsite, status, h.status_eq, h.isFailing_iff.1 hfailing⟩
  · rintro ⟨site, hsite, status, hstatus, hbad⟩
    obtain ⟨status', h⟩ := hreflects site hsite
    obtain rfl : status = status' := Option.some.inj (hstatus.symm.trans h.status_eq)
    exact ⟨site, hsite, h.isFailing_iff.2 hbad⟩

/-- No batch changes what is configured. -/
theorem store_configs (m : Monitor) (b : Batch FetchError SiteStatus) :
    (m.store b).configs = m.configs := by
  apply List.ext_getElem?
  intro i
  rw [configs, configs, List.getElem?_map, List.getElem?_map, store_sites_getElem?, Option.map_map]
  congr 1
  funext site
  cases b.slotAt i <;> simp [MonitoredSite.record]

/-- Records of the same sites into which such a batch is written show what the monitor shows. -/
theorem merge_checkArriving {m : Monitor} {times : Nat → Nat} {s : Surroundings}
    (hnone : (m.checkArriving times s).batch.interrupted = none) {r : MonitorRecord}
    (hconfigs : r.sites.map (·.config) = m.configs) :
    r.merge (m.checkArriving times s).batch = .ofMonitor (m.checkedArriving times s.network) := by
  let checked (i : Nat) (site : MonitoredSite) : Attempt SiteStatus :=
    site.config.checkArriving s.network (times i)
  have hslots : List.zipWith Batch.slot (m.checkArriving times s).batch.outputs
      (m.checkArriving times s).batch.errors =
      (m.sites.mapIdx fun i site => (checked i site).result).map fun status =>
        some (.ok status) := by
    unfold checkArriving at hnone ⊢
    rw [runAttempts_batch hnone, Batch.inTurn_outputs, Batch.inTurn_errors]
    simp only [List.mapIdx_eq_zipIdx_map, List.map_map, List.zipWith_map, List.zipWith_self]
    rfl
  refine MonitorRecord.merge_eq_ofMonitor (m.sites.mapIdx fun i site => (checked i site).result)
    (hconfigs.trans (m.checkedArriving_configs times s.network).symm) ?_
    (MonitorRecord.results_eq_resultsFrom hslots)
  simp only [checkedArriving, List.mapIdx_eq_zipIdx_map, List.map_map]
  rfl

end Monitor

/-! ## Runs of updates -/

/-- One update of a run: what it meets, and when the answers to its requests arrive. -/
structure Round where
  surroundings : Surroundings
  times : Nat → Nat

namespace Leaf

variable {l : Leaf} {m : Monitor} {configs : List SiteConfig} {s : Surroundings}
  {times : Nat → Nat}

/-- The leaf after some updates. -/
def after (l : Leaf) (rounds : List Round) : Leaf :=
  rounds.foldl (fun l r => (l.updateArriving r.times r.surroundings).leaf) l

/-- The leaf monitors the given sites, and its policy is not to keep the full hours. -/
structure Watches (l : Leaf) (configs : List SiteConfig) : Prop where
  exists_monitor : ∃ m, l.content = .monitor m ∧ m.configs = configs
  policy_ne : l.base.refresh.policy ≠ .hourly

theorem IsReachable.watches (hl : l.IsReachable) (hcontent : l.content = .monitor m) :
    l.Watches m.configs where
  exists_monitor := ⟨m, hcontent, rfl⟩
  policy_ne := by
    have hkind : l.kind = .monitor := by
      rw [kind, hcontent]
      rfl
    exact hl.policy_ne_hourly (by rw [hkind]; decide)

theorem updateArriving_of_monitor (hcontent : l.content = .monitor m) (times : Nat → Nat)
    (s : Surroundings) :
    l.updateArriving times s = l.finish s (Content.checkedCycle m (m.checkArriving times s)) := by
  unfold updateArriving
  rw [hcontent]

theorem finish_content (l : Leaf) (s : Surroundings) (c : Cycle) :
    (l.finish s c).leaf.content = c.content ∨ (l.finish s c).leaf.content = l.content := by
  unfold finish
  cases s.clock.read with
  | error => exact .inr rfl
  | ok now =>
    dsimp only
    split
    · exact .inl rfl
    · exact .inr rfl

/-- One update, interrupted or not, leaves a monitor of the same sites. -/
theorem Watches.updateArriving (h : l.Watches configs) (times : Nat → Nat) (s : Surroundings) :
    (l.updateArriving times s).leaf.Watches configs := by
  obtain ⟨m, hcontent, hconfigs⟩ := h.exists_monitor
  rw [updateArriving_of_monitor hcontent]
  refine ⟨?_, fun hhourly => h.policy_ne ((l.finish_policy s _).symm.trans hhourly)⟩
  rcases l.finish_content s (Content.checkedCycle m (m.checkArriving times s)) with hnew | hold
  · exact ⟨_, hnew, (m.store_configs _).trans hconfigs⟩
  · exact ⟨m, hold.trans hcontent, hconfigs⟩

/-- So do all updates of a run. -/
theorem Watches.after (h : l.Watches configs) (rounds : List Round) :
    (l.after rounds).Watches configs := by
  induction rounds generalizing l with
  | nil => exact h
  | cons r rounds ih => exact ih (h.updateArriving r.times r.surroundings)

/-- An update that was not interrupted, under a clock that can be read, checks all sites. -/
theorem Watches.updateArriving_content (h : l.Watches configs) (hcontent : l.content = .monitor m)
    (hnone : (m.checkArriving times s).batch.interrupted = none) {now : Instant}
    (hread : s.clock.read = .ok now) :
    (l.updateArriving times s).leaf.content = .monitor (m.checkedArriving times s.network) := by
  let c := Content.checkedCycle m (m.checkArriving times s)
  have houtcome : c.outcome = .success := by
    have hverdict : c.outcome.verdict = .success := by
      change (Outcome.ofResult
        ((m.checkArriving times s).batch.classify "site checks")).verdict = _
      rw [Batch.verdict_classify hnone, Monitor.checkArriving_failedCount hnone, if_pos rfl]
    cases hc : c.outcome with
    | success => rfl
    | partialFailure | totalFailure =>
      rw [hc] at hverdict
      cases hverdict
  -- A success has no retry to plan, and so its report has room at any instant.
  have hroom : l.base.refresh.HasRoom c.outcome s.offset now := by
    refine RefreshState.hasRoom_of_ne_hourly h.policy_ne fun hfailure => ?_
    rw [houtcome] at hfailure
    cases hfailure
  rw [updateArriving_of_monitor hcontent, finish_leaf_of_hasRoom hread fun _ => hroom, reported,
    houtcome]
  exact congrArg Content.monitor (Monitor.store_checkArriving hnone)

/-- After any run of updates of a monitor, whatever was answered, and whenever, the monitor has the
sites that it had at first. If then an update is not interrupted, and its clock can be read, all
that the monitor shows reflects the answers to the requests of this update; and records of the same
sites into which the results are written in place show the same, whatever they held before. Under a
clock that cannot be read nothing changes. -/
theorem after_reflects_answers (hl : l.IsReachable) (hcontent : l.content = .monitor m)
    (rounds : List Round) (times : Nat → Nat) (s : Surroundings) :
    let last := l.after rounds
    let next := (last.updateArriving times s).leaf
    ∃ before, last.content = .monitor before ∧ before.configs = m.configs ∧
      ((before.checkArriving times s).batch.interrupted = none → 0 ≤ s.clock.nanos →
        s.clock.nanos ≤ Instant.latestNanos →
        ∃ shown, next.content = .monitor shown ∧ shown.ReflectsAll s.network m.configs ∧
          ∀ r : MonitorRecord, r.sites.map (·.config) = m.configs →
            r.merge (before.checkArriving times s).batch = .ofMonitor shown) ∧
      (¬ (0 ≤ s.clock.nanos ∧ s.clock.nanos ≤ Instant.latestNanos) → next = last) := by
  intro last next
  have hwatches : last.Watches m.configs := (hl.watches hcontent).after rounds
  obtain ⟨before, hbefore, hconfigs⟩ := hwatches.exists_monitor
  refine ⟨before, hbefore, hconfigs, fun hnone hepoch hlatest => ?_, fun hunreadable => ?_⟩
  · obtain ⟨now, hread⟩ := Clock.exists_read_eq_ok_iff.2 ⟨hepoch, hlatest⟩
    refine ⟨before.checkedArriving times s.network,
      hwatches.updateArriving_content hbefore hnone hread,
      hconfigs ▸ before.checkedArriving_reflectsAll times s.network, fun r hr => ?_⟩
    exact Monitor.merge_checkArriving hnone (hr.trans hconfigs.symm)
  · cases hread : s.clock.read with
    | ok now => exact absurd (Clock.exists_read_eq_ok_iff.1 ⟨now, hread⟩) hunreadable
    | error e =>
      change (last.updateArriving times s).leaf = last
      rw [updateArriving_of_monitor hbefore]
      exact finish_leaf_of_read_eq_error hread

/-- A site with another URL to link to while its checks err. -/
def homepage : SiteConfig :=
  ⟨"Home", "http://a.test", none, some "http://b.test", false, none, none, []⟩

/-- A monitor that has been built and not been updated yet. -/
def newWatch : Leaf :=
  ⟨.ofConfig 1 .monitor ⟨none, none, false, none, none⟩, .monitor ⟨[⟨homepage, none⟩], false⟩⟩

theorem newWatch_isReachable : newWatch.IsReachable := by
  have hbuilt : newWatch.IsBuilt :=
    ⟨1, ⟨none, none, false, none, none⟩, .monitor [homepage] false, rfl, rfl⟩
  exact ⟨newWatch, hbuilt, .refl⟩

/-- An answer after an outage brings the usual link back. -/
theorem after_reflects_answers_recovery :
    newWatch.IsReachable ∧ newWatch.content = .monitor ⟨[⟨homepage, none⟩], false⟩ ∧
      ∀ times times', ∃ shown,
        (newWatch.after [⟨answeredAtEpoch .unreachable, times⟩,
          ⟨answeredAtEpoch (.response 200 []), times'⟩]).content = .monitor shown ∧
        shown.configs = [homepage] ∧
        ∀ site ∈ shown.sites, site.link = "http://a.test" ∧ site.statusStyle = "ok" := by
  refine ⟨newWatch_isReachable, rfl, fun times times' => ?_⟩
  obtain ⟨before, _, _, hchecked, _⟩ := after_reflects_answers newWatch_isReachable rfl
    [⟨answeredAtEpoch .unreachable, times⟩] times' (answeredAtEpoch (.response 200 []))
  obtain ⟨shown, hshown, hreflects, _⟩ :=
    hchecked runAttempts_never_interrupted (by decide) (by decide)
  have hanswered : homepage.IsAnswered (fun _ => .response 200 []) 200 := by
    have hsendable : homepage.request.toOption.any (·.url.isSendable) := by decide +kernel
    cases hrequest : homepage.request with
    | error e =>
      rw [hrequest] at hsendable
      cases hsendable
    | ok r =>
      rw [hrequest] at hsendable
      obtain ⟨u, hu, hgets⟩ := SiteConfig.request_gets hrequest
      exact ⟨u, r, hu, hrequest, hgets, hsendable, rfl⟩
  refine ⟨shown, hshown, hreflects.configs_eq, fun site hsite => ?_⟩
  obtain ⟨status, h⟩ := hreflects.exists_reflects site hsite
  have hconfig : site.config = homepage := by
    have hmem : site.config ∈ shown.configs := List.mem_map_of_mem hsite
    rw [hreflects.configs_eq] at hmem
    exact List.mem_singleton.1 hmem
  rw [← hconfig] at hanswered
  refine ⟨?_, h.style_iff.2 ⟨200, (h.code_iff 200).2 hanswered, .inl rfl⟩⟩
  rw [h.link_eq, if_neg fun herror => h.error_iff.1 herror 200 hanswered, hconfig]
  rfl

/-- A day before the epoch an update that is not interrupted leaves the site without a status. -/
theorem after_reflects_answers_not_dayBeforeEpoch :
    newWatch.IsReachable ∧ newWatch.content = .monitor ⟨[⟨homepage, none⟩], false⟩ ∧
      ∀ times,
        (Monitor.checkArriving ⟨[⟨homepage, none⟩], false⟩ times
          dayBeforeEpoch).batch.interrupted = none ∧
        ∃ shown, (newWatch.updateArriving times dayBeforeEpoch).leaf.content = .monitor shown ∧
          ¬ shown.ReflectsAll dayBeforeEpoch.network [homepage] := by
  refine ⟨newWatch_isReachable, rfl, fun times => ⟨runAttempts_never_interrupted, ?_⟩⟩
  have hread : dayBeforeEpoch.clock.read = .error .outOfRange := if_pos (by decide)
  have hafter : (newWatch.updateArriving times dayBeforeEpoch).leaf = newWatch :=
    finish_leaf_of_read_eq_error hread
  refine ⟨⟨[⟨homepage, none⟩], false⟩, by rw [hafter]; rfl, fun h => ?_⟩
  obtain ⟨status, hreflects⟩ := h.exists_reflects ⟨homepage, none⟩ List.mem_cons_self
  cases hreflects.status_eq

end Leaf

end DashboardRefresh
