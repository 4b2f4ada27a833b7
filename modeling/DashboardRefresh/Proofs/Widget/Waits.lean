import DashboardRefresh.Proofs.Pool.FirstServed
import DashboardRefresh.Proofs.Release.Tokens
import DashboardRefresh.Proofs.Widget.MonitorUpdates
import DashboardRefresh.Proofs.Widget.ReleaseUpdates

/-!
# Waiting for answers that do not come

A request hangs if it is sent and never answered, or if it asks for a document and the answer never
comes whole. Then its attempt fails after as long as the request is willing to wait, and nothing
else takes time. An update takes as long as its hung requests do on its workers, and one without
hung requests is the same on every network that gives the answers that are there.
-/

namespace DashboardRefresh

/-- The second network answers like the first one wherever this does not hang. -/
def Network.CalmedBy (network calm : Network) : Prop :=
  ∀ r, network r ≠ .hangs → calm r = network r

variable {network calm : Network}

/-! ## Requests -/

namespace Request

variable {r : Request}

/-- The request is sent and never answered. -/
def hangs (network : Network) (r : Request) : Bool :=
  r.url.isSendable && network r == .hangs

theorem send_of_hangs (h : r.hangs network) :
    r.send network = ⟨.error (.noAnswer r.url true), some r, r.timeout.toMillis, true⟩ := by
  obtain ⟨hsendable, hhangs⟩ := Bool.and_eq_true_iff.1 h
  unfold send
  rw [if_pos hsendable, eq_of_beq hhangs]

/-- Nothing but a hung request takes time. -/
theorem send_waited :
    (r.send network).waited = if r.hangs network then r.timeout.toMillis else 0 := by
  unfold send hangs
  cases r.url.isSendable with
  | false => rfl
  | true => cases network r <;> simp

theorem send_calm (hcalm : network.CalmedBy calm) (h : r.hangs network = false) :
    r.send calm = r.send network := by
  unfold send
  split
  · rename_i hsendable
    rw [hcalm r fun hhangs => by simp [hangs, hsendable, hhangs] at h]
  · rfl

/-- The request is sent and the whole of an answer never comes. -/
def starves (network : Network) (r : Request) : Bool :=
  r.url.isSendable && match network r with
    | .hangs | .stalls _ => true
    | _ => false

theorem hangs_of_not_starves (h : r.starves network = false) : r.hangs network = false := by
  unfold starves at h
  unfold hangs
  cases hsendable : r.url.isSendable with
  | false => rfl
  | true =>
    rw [hsendable, Bool.true_and] at h
    cases hanswer : network r <;> simp [hanswer] at h ⊢

/-- Nothing takes time but waiting for an answer, or for the rest of one, that never comes. -/
theorem fetch_waited :
    (r.fetch network).waited = if r.starves network then r.timeout.toMillis else 0 := by
  unfold fetch send starves
  cases r.url.isSendable with
  | false => rfl
  | true => cases network r <;> simp [Attempt.whole]

theorem fetch_of_starves (h : r.starves network) :
    ∃ error, (r.fetch network).result = .error error := by
  obtain ⟨hsendable, hkept⟩ := Bool.and_eq_true_iff.1 h
  unfold fetch send
  rw [if_pos hsendable]
  cases hanswer : network r with
  | hangs | stalls => exact ⟨_, rfl⟩
  | response | brokenOff | closed | unreachable => simp [hanswer] at hkept

theorem fetch_calm (hcalm : network.CalmedBy calm) (h : r.starves network = false) :
    r.fetch calm = r.fetch network := by
  unfold fetch
  rw [send_calm hcalm (hangs_of_not_starves h)]

/-- A request waits as long as it is told to. -/
theorem timeout_of_ofUrl {method : Method} {url : Url} {timeout : Duration}
    (h : ofUrl method url timeout = .ok r) : r.timeout = timeout := by
  unfold ofUrl at h
  split at h
  · cases h
  · split at h <;> cases h <;> rfl

theorem timeout_of_ofText {method : Method} {url : String} {timeout : Duration}
    (h : ofText method url timeout = .ok r) : r.timeout = timeout := by
  unfold ofText at h
  split at h
  · exact timeout_of_ofUrl h
  · cases h

end Request

/-! ## Sites -/

namespace SiteConfig

variable {site : SiteConfig}

/-- The check of the site hangs. -/
def hangs (network : Network) (site : SiteConfig) : Bool :=
  site.request.toOption.any (·.hangs network)

/-- The milliseconds that a hung check of the site takes: its own timeout if it has one that is not
zero, and three seconds otherwise. -/
def patience (site : SiteConfig) : Nat :=
  ((site.timeout.filter fun timeout => !timeout.isZero).getD (.ofSeconds 3)).toMillis

theorem patience_eq (site : SiteConfig) : site.patience = site.checkTimeout.toMillis := by
  unfold patience checkTimeout defaultTimeout
  cases site.timeout with
  | none => rfl
  | some timeout => cases hzero : timeout.isZero <;> simp [Option.filter, hzero]

theorem timeout_of_request {r : Request} (h : site.request = .ok r) :
    r.timeout = site.checkTimeout := by
  unfold request at h
  obtain ⟨plain, hplain, h⟩ := exists_of_bind_eq_ok h
  have htimeout := Request.timeout_of_ofText hplain
  dsimp only at h
  split at h <;> cases h <;> exact htimeout

theorem check_waited :
    (site.check network).waited = if site.hangs network then site.patience else 0 := by
  unfold check hangs
  cases hrequest : site.request with
  | error => rfl
  | ok r =>
    rw [patience_eq, ← timeout_of_request hrequest]
    exact Request.send_waited

/-- A check that hangs has timed out, and its time is the one that it has waited. -/
theorem check_of_hangs (h : site.hangs network) : ∃ message, (site.check network).result =
    ⟨none, true, min site.patience (Word.unsignedLimit - 1), some message⟩ := by
  unfold hangs at h
  unfold check
  cases hrequest : site.request with
  | error =>
    rw [hrequest] at h
    cases h
  | ok r =>
    rw [hrequest] at h
    dsimp only
    rw [Request.send_of_hangs h, patience_eq, ← timeout_of_request hrequest]
    exact ⟨_, rfl⟩

theorem check_calm (hcalm : network.CalmedBy calm) (h : site.hangs network = false) :
    site.check calm = site.check network := by
  unfold hangs at h
  unfold check
  cases hrequest : site.request with
  | error => rfl
  | ok r =>
    rw [hrequest] at h
    dsimp only
    rw [Request.send_calm hcalm h]

end SiteConfig

namespace Monitor

variable {m : Monitor}

/-- The checks of a monitor take as long as those that hang do when twenty workers serve them as
they come. -/
theorem check_waited (m : Monitor) (network : Network) : (m.check network .never).waited =
    Pool.servedLength 20 ((m.sites.filter (·.config.hangs network)).map (·.config.patience)) := by
  have hwaits : (m.sites.map fun site => (site.config.check network).map
      (.ok : SiteStatus → Except FetchError SiteStatus)).map (·.waited) =
        m.sites.map fun site =>
          if site.config.hangs network then site.config.patience else 0 := by
    rw [List.map_map]
    exact List.map_congr_left fun site _ => site.config.check_waited
  unfold check
  rw [runAttempts_waited (by decide), hwaits, Pool.servedLength_map_ite]
  rfl

theorem check_calm (hcalm : network.CalmedBy calm)
    (h : ∀ site ∈ m.sites, site.config.hangs network = false) (cancellation : Cancellation) :
    m.check calm cancellation = m.check network cancellation := by
  unfold check
  congr 1
  apply List.map_congr_left
  intro site hsite
  rw [SiteConfig.check_calm hcalm (h site hsite)]

end Monitor

/-! ## Releases -/

namespace ReleaseEntry

variable {e : ReleaseEntry} {endpoints : Endpoints} {timeout : Duration}

/-- The lookup of an entry hangs. -/
def hangs (endpoints : Endpoints) (network : Network) (timeout : Duration) (e : ReleaseEntry) :
    Bool :=
  (e.request? endpoints timeout).any (·.starves network)

theorem timeout_of_request? {r : Request} (h : e.request? endpoints timeout = some r) :
    r.timeout = timeout := by
  obtain ⟨url, _, hrequest⟩ := request?_eq_some h
  obtain ⟨plain, hplain, rfl⟩ := request_eq_ok hrequest
  have htimeout : plain.timeout = timeout := Request.timeout_of_ofUrl hplain
  exact htimeout

/-- A lookup either fails without a request, or reads the answer to its request. -/
theorem lookup_cases (e : ReleaseEntry) (endpoints : Endpoints) (timeout : Duration) :
    (e.request? endpoints timeout = none ∧ ∃ error, ∀ network,
      e.lookup endpoints network timeout = .offline (.error error)) ∨
    ∃ url r, e.request? endpoints timeout = some r ∧ ∀ network,
      e.lookup endpoints network timeout = (r.fetch network).map (e.read url r.url) := by
  cases hurl : apiUrl (endpoints.baseUrl e.source) e.segments with
  | error error =>
    refine .inl ⟨by simp [request?, hurl, Except.toOption], error, fun network => ?_⟩
    rw [lookup_eq, hurl]
  | ok url =>
    cases hrequest : e.request endpoints timeout url with
    | error fault =>
      refine .inl ⟨by simp [request?, hurl, hrequest, Except.toOption], .ofBuild fault,
        fun network => ?_⟩
      simp only [lookup_eq, hurl, hrequest]
    | ok r =>
      refine .inr ⟨url, r, request?_of_request hurl hrequest, fun network => ?_⟩
      simp only [lookup_eq, hurl, hrequest]

theorem lookup_waited : (e.lookup endpoints network timeout).waited =
    if e.hangs endpoints network timeout then timeout.toMillis else 0 := by
  unfold hangs
  obtain ⟨hnone, error, hlookup⟩ | ⟨url, r, hr, hlookup⟩ := e.lookup_cases endpoints timeout
  · rw [hlookup, hnone]
    rfl
  · rw [hlookup, hr, ← timeout_of_request? hr]
    exact Request.fetch_waited

theorem read_error (url requested : Url) (error : SendError) :
    ¬ (e.read url requested (.error error)).isOk := by
  unfold read
  cases e.source with
  | github | codeberg | gitlab => exact Bool.false_ne_true
  | dockerhub =>
    dsimp only
    split <;> exact Bool.false_ne_true

/-- A lookup that hangs finds nothing. -/
theorem lookup_of_hangs (h : e.hangs endpoints network timeout) :
    ¬ (e.lookup endpoints network timeout).result.isOk := by
  unfold hangs at h
  obtain ⟨hnone, _⟩ | ⟨url, r, hr, hlookup⟩ := e.lookup_cases endpoints timeout
  · rw [hnone] at h
    cases h
  · rw [hr] at h
    obtain ⟨error, herror⟩ := Request.fetch_of_starves h
    rw [hlookup, Attempt.map, herror]
    exact read_error url r.url error

theorem lookup_calm (hcalm : network.CalmedBy calm)
    (h : e.hangs endpoints network timeout = false) :
    e.lookup endpoints calm timeout = e.lookup endpoints network timeout := by
  unfold hangs at h
  obtain ⟨_, error, hlookup⟩ | ⟨url, r, hr, hlookup⟩ := e.lookup_cases endpoints timeout
  · rw [hlookup, hlookup]
  · rw [hr] at h
    rw [hlookup, hlookup, Request.fetch_calm hcalm h]

end ReleaseEntry

namespace ReleaseList

variable {l : ReleaseList} {s : Surroundings}

/-- How many lookups of an update hang. -/
def hungCount (l : ReleaseList) (s : Surroundings) : Nat :=
  l.entries.countP (·.hangs l.endpoints s.network s.requestTimeout)

/-- How many lookups of an update fail without hanging. -/
def refusedCount (l : ReleaseList) (s : Surroundings) : Nat :=
  l.entries.countP fun e => !e.hangs l.endpoints s.network s.requestTimeout &&
    !(e.lookup l.endpoints s.network s.requestTimeout).result.isOk

/-- Every lookup that hangs counts as one that fails. -/
theorem failedCount_eq (l : ReleaseList) (s : Surroundings) :
    l.failedCount s = l.hungCount s + l.refusedCount s := by
  unfold failedCount results hungCount refusedCount
  rw [List.countP_map]
  induction l.entries with
  | nil => rfl
  | cons e entries ih =>
    rw [List.countP_cons, List.countP_cons, List.countP_cons, ih]
    cases hhangs : e.hangs l.endpoints s.network s.requestTimeout with
    | false => simp; omega
    | true =>
      have hfails := ReleaseEntry.lookup_of_hangs hhangs
      simp [hfails]
      omega

/-- Twenty lookups that hang end together, and each further twenty of them one timeout later. -/
theorem lookUp_waited (l : ReleaseList) (s : Surroundings) :
    (l.lookUp s.network s.requestTimeout .never).waited =
      (l.hungCount s + 19) / 20 * s.requestTimeout.toMillis := by
  have hwaits : (l.entries.map fun e => e.lookup l.endpoints s.network s.requestTimeout).map
      (·.waited) = l.entries.map fun e =>
        if e.hangs l.endpoints s.network s.requestTimeout then s.requestTimeout.toMillis
        else 0 := by
    rw [List.map_map]
    exact List.map_congr_left fun e _ => ReleaseEntry.lookup_waited
  unfold lookUp
  rw [runAttempts_waited (by decide), hwaits, Pool.servedLength_map_ite, List.map_const',
    ← List.countP_eq_length_filter, Pool.servedLength_replicate (by decide)]
  rfl

theorem lookUp_calm (hcalm : s.network.CalmedBy calm) (h : l.hungCount s = 0)
    (cancellation : Cancellation) : l.lookUp calm s.requestTimeout cancellation =
      l.lookUp s.network s.requestTimeout cancellation := by
  unfold hungCount at h
  unfold lookUp
  congr 1
  apply List.map_congr_left
  intro e he
  exact ReleaseEntry.lookup_calm hcalm (by simpa using List.countP_eq_zero.1 h e he)

end ReleaseList

/-! ## Custom APIs -/

namespace ApiConfig

variable {api : ApiConfig} {s : Surroundings}

/-- The request of a custom API hangs. -/
def hangs (s : Surroundings) (api : ApiConfig) : Bool :=
  (api.request s.requestTimeout).toOption.any (·.starves s.network)

theorem timeout_of_request {timeout : Duration} {r : Request} (h : api.request timeout = .ok r) :
    r.timeout = timeout := by
  have haddHeaders (headers : List (String × String)) (plain : Request)
      (h : headers.foldlM (fun r h => r.addHeader h.1 h.2) plain = .ok r) :
      r.timeout = plain.timeout := by
    induction headers generalizing plain with
    | nil =>
      cases h
      rfl
    | cons header headers ih =>
      rw [List.foldlM_cons] at h
      obtain ⟨next, hnext, h⟩ := exists_of_bind_eq_ok h
      rw [ih next h, Request.addHeader_eq_ok hnext]
  unfold request at h
  cases hbody : api.body with
  | none =>
    rw [hbody] at h
    obtain ⟨plain, hplain, h⟩ := exists_of_bind_eq_ok h
    rw [haddHeaders _ _ h]
    exact Request.timeout_of_ofText hplain
  | some body =>
    rw [hbody] at h
    obtain ⟨_, hposted, h⟩ := exists_of_bind_eq_ok h
    obtain ⟨plain, hplain, rfl⟩ := exists_of_map_eq_ok hposted
    have htimeout : plain.timeout = timeout := Request.timeout_of_ofText hplain
    rw [haddHeaders _ _ h]
    exact htimeout

theorem fetch_waited :
    (api.fetch s).waited = if api.hangs s then s.requestTimeout.toMillis else 0 := by
  unfold hangs fetch
  cases hrequest : api.request s.requestTimeout with
  | error => rfl
  | ok r =>
    rw [← timeout_of_request hrequest]
    exact Request.fetch_waited

theorem fetch_calm (hcalm : s.network.CalmedBy calm) (h : api.hangs s = false) :
    api.fetch { s with network := calm } = api.fetch s := by
  unfold hangs at h
  unfold fetch
  dsimp only
  cases hrequest : api.request s.requestTimeout with
  | error => rfl
  | ok r =>
    rw [hrequest] at h
    unfold fetchDocument
    dsimp only
    rw [Request.fetch_calm hcalm h]

end ApiConfig

/-! ## Leaves -/

namespace Content

variable {content : Content} {s : Surroundings} {answerCounts : Bool}

/-- How many requests of an update hang. -/
def hungCount (s : Surroundings) : Content → Nat
  | html _ | calendar .. => 0
  | monitor m => m.sites.countP (·.config.hangs s.network)
  | customApi api _ => if api.hangs s then 1 else 0
  | releases l => l.hungCount s

/-- The milliseconds that an update takes because of its hung requests. -/
def wait (s : Surroundings) : Content → Nat
  | html _ | calendar .. => 0
  | monitor m =>
    Pool.servedLength 20 ((m.sites.filter (·.config.hangs s.network)).map (·.config.patience))
  | customApi api _ => if api.hangs s then s.requestTimeout.toMillis else 0
  | releases l => (l.hungCount s + 19) / 20 * s.requestTimeout.toMillis

theorem cycle_waited {c : Cycle} (hnever : s.cancellation = .never)
    (hcycle : content.cycle s answerCounts = some (.ok c)) : c.waited = content.wait s := by
  cases content with
  | html => cases hcycle
  | calendar startSunday grid =>
    obtain ⟨now, _, hdrawn⟩ := exists_of_bind_eq_ok (Option.some.inj hcycle)
    obtain ⟨grid, _, hc⟩ := exists_of_bind_eq_ok hdrawn
    cases hc
    rfl
  | monitor m =>
    cases hcycle
    change (m.check s.network s.cancellation).waited = _
    rw [hnever]
    exact m.check_waited s.network
  | customApi api document =>
    cases hcycle
    unfold apiCycle
    rw [hnever]
    exact ApiConfig.fetch_waited
  | releases l =>
    cases hcycle
    change (l.lookUp s.network s.requestTimeout s.cancellation).waited = _
    rw [hnever]
    exact l.lookUp_waited s

/-- Content whose cycle does not come to a report does not wait. -/
theorem wait_eq_zero (h : ∀ c, content.cycle s answerCounts ≠ some (.ok c)) :
    content.wait s = 0 := by
  cases content with
  | html | calendar => rfl
  | monitor | customApi | releases => exact absurd rfl (h _)

/-- Without hung requests a cycle is the same where all requests are answered. -/
theorem cycle_calm (hcalm : s.network.CalmedBy calm) (h : content.hungCount s = 0) :
    content.cycle { s with network := calm } answerCounts = content.cycle s answerCounts := by
  cases content with
  | html | calendar => rfl
  | monitor m =>
    have hsites : ∀ site ∈ m.sites, site.config.hangs s.network = false := by
      simpa [hungCount, List.countP_eq_zero] using h
    unfold cycle monitorCycle
    dsimp only
    rw [Monitor.check_calm hcalm hsites]
  | customApi api document =>
    have hanswered : api.hangs s = false := by simpa [hungCount] using h
    unfold cycle apiCycle
    dsimp only
    rw [ApiConfig.fetch_calm hcalm hanswered]
  | releases l =>
    unfold cycle releasesCycle
    dsimp only
    rw [ReleaseList.lookUp_calm hcalm h]

end Content

namespace Leaf

variable {l : Leaf} {s : Surroundings}

/-- An update takes as long as its hung requests make it, whatever the clock shows. -/
theorem update_waited (hnever : s.cancellation = .never) :
    (l.update s).waited = l.content.wait s := by
  have hzero (h : ∀ c, l.cycle s ≠ some (.ok c)) : l.content.wait s = 0 :=
    Content.wait_eq_zero h
  unfold update
  cases hcycle : l.cycle s with
  | none => exact (hzero fun c hc => by rw [hcycle] at hc; cases hc).symm
  | some r =>
    cases r with
    | error => exact (hzero fun c hc => by rw [hcycle] at hc; cases hc).symm
    | ok c =>
      refine Eq.trans ?_ (Content.cycle_waited hnever hcycle)
      dsimp only
      unfold finish
      split <;> rfl

theorem update_calm (hcalm : s.network.CalmedBy calm) (h : l.content.hungCount s = 0) :
    l.update { s with network := calm } = l.update s := by
  have hcycle : l.cycle { s with network := calm } = l.cycle s := Content.cycle_calm hcalm h
  unfold update
  rw [hcycle]
  rfl

end Leaf

/-! ## What hung requests come to -/

/-- The site shows that its check has timed out. -/
structure MonitoredSite.ShowsTimeout (site : MonitoredSite) : Prop where
  timedOut : site.status.any (·.timedOut)
  text_eq : site.statusText = "Timed Out"

theorem Monitor.checkedArriving_of_hangs {m : Monitor} {i : Nat} {site : MonitoredSite}
    (hsite : m.sites[i]? = some site) (hhangs : site.config.hangs network) (times : Nat → Nat) :
    ∃ after, (m.checkedArriving times network).sites[i]? = some after ∧
      after.config = site.config ∧ after.ShowsTimeout := by
  obtain ⟨message, hresult⟩ := SiteConfig.check_of_hangs hhangs
  refine ⟨⟨site.config, some (site.config.checkArriving network (times i)).result⟩, ?_, rfl, ?_⟩
  · rw [Monitor.checkedArriving, List.getElem?_mapIdx, hsite]
    rfl
  · rw [SiteConfig.checkArriving, hresult]
    exact ⟨rfl, rfl⟩

namespace Leaf

variable {l : Leaf} {s : Surroundings} {now : Instant}

/-- The second leaf is the first after an update at `now` in which requests may hang: the sites
whose checks hang show it, and the lookups that hang are among those that are reported to have
failed. -/
structure ReportsHung (s : Surroundings) (now : Instant) (l l' : Leaf) : Prop where
  sites : ∀ m, l.content = .monitor m → ∃ shown, l'.content = .monitor shown ∧
    ∀ (i : Nat) site, m.sites[i]? = some site → site.config.hangs s.network →
      ∃ after, shown.sites[i]? = some after ∧ after.config = site.config ∧ after.ShowsTimeout
  releases : ∀ list, l.content = .releases list → l'.base.refresh = (l.base.refresh.report
    (ReleaseList.outcomeOf list.entries.length (list.hungCount s + list.refusedCount s))
    s.offset now).state

theorem IsReachable.reportsHung (hl : l.IsReachable) (hnever : s.cancellation = .never)
    (hread : s.clock.read = .ok now) : l.ReportsHung s now (l.update s).leaf where
  sites m hcontent := by
    obtain ⟨times, hupdate⟩ := l.exists_updateArriving_eq s
    have hnone : (m.checkArriving times s).batch.interrupted = none := by
      unfold Monitor.checkArriving
      rw [hnever]
      exact runAttempts_never_interrupted
    refine ⟨m.checkedArriving times s.network, ?_, fun i site hsite hhangs =>
      Monitor.checkedArriving_of_hangs hsite hhangs times⟩
    rw [← hupdate]
    exact (hl.watches hcontent).updateArriving_content hcontent hnone hread
  releases list hcontent := by
    have hvalid := hl.wellFormed.isValid
    rw [hcontent] at hvalid
    rw [update_of_releases hcontent, finish, hread, ← ReleaseList.failedCount_eq,
      ← ReleaseList.releasesCycle_outcome hvalid.1 hnever]

end Leaf

end DashboardRefresh
