import DashboardRefresh.Proofs.Release.Tokens
import DashboardRefresh.Proofs.Widget.Cycles

/-!
# Leaves without their secrets

The secrets of a configuration are the tokens of lists of releases, and the user names and passwords
of the sites of monitors. They are in the headers of requests only. So a network that answers by
URL does not see them, and a leaf that has lost its secrets is updated like the leaf itself, apart
from what it sends.
-/

namespace DashboardRefresh

/-- Requests for the same URL get the same answer, whatever their headers are. -/
def Network.AnswersByUrl (network : Network) : Prop :=
  ∀ r r', r'.url = r.url → network r' = network r

namespace SiteConfig

/-- The site without a user name and a password. -/
def censored (site : SiteConfig) : SiteConfig := { site with credentials := none }

/-- Nobody in particular can ask for a site just if somebody can, and at the same URL. -/
theorem request_censored (site : SiteConfig) :
    (∃ e, site.request = .error e ∧ site.censored.request = .error e) ∨
      ∃ r r', site.request = .ok r ∧ site.censored.request = .ok r' ∧ r'.url = r.url ∧
        r'.timeout = r.timeout := by
  have hplain : site.censored.request =
      (Request.ofText .get (site.checkUrl.getD site.url) site.checkTimeout).map fun r =>
        { r with allowInsecure := site.allowInsecure } := by
    unfold request
    change Request.ofText .get (site.checkUrl.getD site.url) site.checkTimeout >>= _ = _
    cases Request.ofText .get (site.checkUrl.getD site.url) site.checkTimeout <;> rfl
  rw [hplain]
  unfold request
  cases Request.ofText .get (site.checkUrl.getD site.url) site.checkTimeout with
  | error e => exact .inl ⟨e, rfl, rfl⟩
  | ok r =>
    refine .inr ?_
    cases site.credentials with
    | none => exact ⟨_, _, rfl, rfl, rfl, rfl⟩
    | some c => exact ⟨_, _, rfl, rfl, rfl, rfl⟩

/-- Who asks for a site makes no difference but in the request. -/
theorem check_censored {network : Network} (hnetwork : network.AnswersByUrl) (site : SiteConfig) :
    ∃ sent, site.censored.check network = { site.check network with sent } := by
  unfold check
  rcases site.request_censored with ⟨e, hr, hr'⟩ | ⟨r, r', hr, hr', hurl, htimeout⟩
  · rw [hr, hr']
    exact ⟨none, rfl⟩
  · rw [hr, hr']
    dsimp only
    rw [ReleaseEntry.send_alike hurl htimeout (hnetwork r r' hurl)]
    exact ⟨_, rfl⟩

end SiteConfig

namespace Monitor

variable {network : Network}

def censored (m : Monitor) : Monitor :=
  { m with sites := m.sites.map fun s => { s with config := s.config.censored } }

theorem storeStatus_censored (m : Monitor) (result : Nat × Except FetchError SiteStatus) :
    m.censored.storeStatus result = (m.storeStatus result).censored := by
  refine congrArg (Monitor.mk · m.showFailingOnly) (List.ext_getElem? fun i => ?_)
  simp only [censored, storeStatus, List.getElem?_modify, List.getElem?_map]
  cases m.sites[i]? with
  | none => rfl
  | some site =>
    by_cases hi : result.1 = i <;> simp [hi, MonitoredSite.record]

theorem store_censored (m : Monitor) (batch : Batch FetchError SiteStatus) :
    m.censored.store batch = (m.store batch).censored := by
  unfold store
  induction batch.results generalizing m with
  | nil => rfl
  | cons result results ih => rw [List.foldl_cons, List.foldl_cons, ← ih, storeStatus_censored]

theorem check_censored (hnetwork : network.AnswersByUrl) (m : Monitor)
    (cancellation : Cancellation) : m.censored.check network cancellation =
      { m.check network cancellation with
        sent := (m.censored.check network cancellation).sent } := by
  have hsites : (m.censored.sites.map fun s => (s.config.check network).map Except.ok) =
      m.sites.map fun s => ((s.config.censored.check network).map Except.ok :
        Attempt (Except FetchError SiteStatus)) := List.map_map
  have hsite (s : MonitoredSite) : ∃ sent,
      ((s.config.censored.check network).map Except.ok : Attempt (Except FetchError _)) =
        { (s.config.check network).map Except.ok with sent } := by
    obtain ⟨sent, hsent⟩ := s.config.check_censored hnetwork
    rw [hsent]
    exact ⟨sent, rfl⟩
  unfold check
  rw [hsites]
  apply runAttempts_congr
  · rw [List.map_map, List.map_map]
    apply List.map_congr_left
    intro s _
    obtain ⟨sent, hsent⟩ := hsite s
    simp only [Function.comp_apply, hsent]
    rfl
  · rw [List.map_map, List.map_map]
    apply List.map_congr_left
    intro s _
    obtain ⟨sent, hsent⟩ := hsite s
    simp only [Function.comp_apply, hsent]

end Monitor

namespace ReleaseList

def censored (L : ReleaseList) : ReleaseList :=
  { L with endpoints := { L.endpoints with githubToken := none, gitlabToken := none } }

theorem haveValidTokens_censored (L : ReleaseList) : L.censored.endpoints.HaveValidTokens where
  github _ htoken := by cases htoken
  gitlab _ htoken := by cases htoken

theorem lookUp_censored {network : Network} (hnetwork : network.AnswersByUrl) {L : ReleaseList}
    (hvalid : L.endpoints.HaveValidTokens) (timeout : Duration) (cancellation : Cancellation) :
    L.censored.lookUp network timeout cancellation =
      { L.lookUp network timeout cancellation with
        sent := (L.censored.lookUp network timeout cancellation).sent } := by
  have hroots : L.censored.endpoints.baseUrls = L.endpoints.baseUrls := rfl
  have halike : L.AnsweredAlike { L with endpoints := L.censored.endpoints } timeout network
      network := by
    intro e _ r r' hr hr'
    apply hnetwork
    rw [(ReleaseEntry.request?_alike hroots hr hr').1]
  exact lookUp_alike hroots hvalid L.haveValidTokens_censored halike cancellation

end ReleaseList

namespace Content

/-- The content without its secrets. -/
def censored : Content → Content
  | monitor m => monitor m.censored
  | releases L => releases L.censored
  | content => content

/-- The tokens, if there are any, can stand in headers. -/
def HasValidTokens : Content → Prop
  | releases L => L.endpoints.HaveValidTokens
  | _ => True

theorem kind_censored (content : Content) : content.censored.kind = content.kind := by
  cases content <;> rfl

variable {content : Content} {s : Surroundings} {answerCounts : Bool} {c : Cycle}

theorem censored_of_kind (hmonitor : content.kind ≠ .monitor)
    (hreleases : content.kind ≠ .releases) : content.censored = content := by
  cases content with
  | html | calendar | customApi => rfl
  | monitor => exact absurd rfl hmonitor
  | releases => exact absurd rfl hreleases

theorem hasValidTokens_of_kind (hreleases : content.kind ≠ .releases) : content.HasValidTokens := by
  cases content with
  | html | calendar | customApi | monitor => trivial
  | releases => exact absurd rfl hreleases

theorem HasValidTokens.cycle (h : content.HasValidTokens)
    (hcycle : content.cycle s answerCounts = some (.ok c)) : c.content.HasValidTokens := by
  cases content with
  | html => cases hcycle
  | calendar startSunday grid =>
    have hcompletes : c.Completes (calendar startSunday grid) :=
      calendarCycle_completes (Option.some.inj hcycle)
    exact hasValidTokens_of_kind (hcompletes.kind_eq ▸ nofun)
  | monitor =>
    cases hcycle
    trivial
  | customApi api document =>
    cases hcycle
    have hcompletes := apiCycle_completes api document s answerCounts
    exact hasValidTokens_of_kind (hcompletes.kind_eq ▸ nofun)
  | releases =>
    cases hcycle
    exact h

theorem monitorCycle_censored (hs : s.network.AnswersByUrl) (m : Monitor) :
    monitorCycle m.censored s =
      { monitorCycle m s with
        content := (monitorCycle m s).content.censored
        sent := (monitorCycle m.censored s).sent } := by
  unfold monitorCycle
  dsimp only
  rw [m.check_censored hs, m.store_censored]
  rfl

theorem releasesCycle_censored (hs : s.network.AnswersByUrl) {L : ReleaseList}
    (hvalid : L.endpoints.HaveValidTokens) :
    releasesCycle L.censored s =
      { releasesCycle L s with
        content := (releasesCycle L s).content.censored
        sent := (releasesCycle L.censored s).sent } := by
  unfold releasesCycle
  dsimp only
  rw [ReleaseList.lookUp_censored hs hvalid]
  rfl

/-- Without its secrets the content goes through the same cycle, and at most sends other
requests. -/
theorem cycle_censored (hvalid : content.HasValidTokens) (hs : s.network.AnswersByUrl) :
    (content.cycle s answerCounts = none ∧ content.censored.cycle s answerCounts = none) ∨
      (∃ e, content.cycle s answerCounts = some (.error e) ∧
        content.censored.cycle s answerCounts = some (.error e)) ∨
      ∃ c sent, content.cycle s answerCounts = some (.ok c) ∧
        content.censored.cycle s answerCounts =
          some (.ok { c with content := c.content.censored, sent }) := by
  cases content with
  | html => exact .inl ⟨rfl, rfl⟩
  | calendar startSunday grid =>
    cases hcycle : calendarCycle startSunday s with
    | error e => exact .inr (.inl ⟨e, congrArg some hcycle, congrArg some hcycle⟩)
    | ok c =>
      have hcompletes : c.Completes (calendar startSunday grid) := calendarCycle_completes hcycle
      have hkind : c.content.kind = .calendar := hcompletes.kind_eq
      have hcensored : c.content.censored = c.content :=
        censored_of_kind (by rw [hkind]; decide) (by rw [hkind]; decide)
      refine .inr (.inr ⟨c, c.sent, congrArg some hcycle, ?_⟩)
      rw [hcensored]
      exact congrArg some hcycle
  | monitor m =>
    have hcycle := monitorCycle_censored hs m
    exact .inr (.inr ⟨_, _, rfl, congrArg (fun c => some (Except.ok c)) hcycle⟩)
  | customApi api document =>
    let c := apiCycle api document s answerCounts
    have hkind : c.content.kind = .customApi :=
      (apiCycle_completes api document s answerCounts).kind_eq
    have hcensored : c.content.censored = c.content :=
      censored_of_kind (by rw [hkind]; decide) (by rw [hkind]; decide)
    refine .inr (.inr ⟨c, c.sent, rfl, ?_⟩)
    rw [hcensored]
    rfl
  | releases L =>
    have hcycle := releasesCycle_censored hs hvalid
    exact .inr (.inr ⟨_, _, rfl, congrArg (fun c => some (Except.ok c)) hcycle⟩)

end Content

namespace Leaf

/-- The leaf without its secrets. -/
def censored (l : Leaf) : Leaf := { l with content := l.content.censored }

variable {l : Leaf} {s : Surroundings}

theorem hasValidTokens_update (h : l.content.HasValidTokens) (s : Surroundings) :
    (l.update s).leaf.content.HasValidTokens := by
  unfold update
  split
  · exact h
  · exact h
  · rename_i c hcycle
    unfold finish
    split
    · exact h
    · dsimp only
      split
      · exact h.cycle hcycle
      · exact h

theorem finish_censored (l : Leaf) (s : Surroundings) (c : Cycle) (sent : List Request) :
    l.censored.finish s { c with content := c.content.censored, sent } =
      { l.finish s c with leaf := (l.finish s c).leaf.censored, sent } := by
  unfold finish censored
  cases s.clock.read with
  | error => rfl
  | ok now =>
    dsimp only
    split <;> rfl

/-- A leaf without its secrets is updated like the leaf itself, and at most sends other requests. -/
theorem update_censored (hvalid : l.content.HasValidTokens) (hs : s.network.AnswersByUrl) :
    ∃ sent, l.censored.update s =
      { l.update s with leaf := (l.update s).leaf.censored, sent } := by
  have hcycle : l.censored.cycle s = l.content.censored.cycle s (s.answerCounts l.base.id) := rfl
  unfold update
  rw [hcycle]
  unfold cycle
  rcases Content.cycle_censored hvalid hs with
    ⟨h, h'⟩ | ⟨e, h, h'⟩ | ⟨c, sent, h, h'⟩
  · rw [h, h']
    exact ⟨[], rfl⟩
  · rw [h, h']
    exact ⟨[], rfl⟩
  · rw [h, h']
    exact ⟨sent, l.finish_censored s c sent⟩

theorem updateIfDue_censored (hvalid : l.content.HasValidTokens) (hs : s.network.AnswersByUrl)
    (now : Instant) : ∃ sent, l.censored.updateIfDue s now =
      { l.updateIfDue s now with leaf := (l.updateIfDue s now).leaf.censored, sent } := by
  have hdue : l.censored.isDue now = l.isDue now := rfl
  unfold updateIfDue
  rw [hdue]
  split
  · exact update_censored hvalid hs
  · exact ⟨[], rfl⟩

end Leaf

/-! ## Groups -/

namespace Group

/-- The second child is the first without its secrets, and so it is after its update. -/
structure Pending.Censors (p p' : Pending) : Prop where
  before_eq : p'.before = p.before.censored
  leaf_eq : p'.update.leaf = p.update.leaf.censored
  waited_eq : p'.update.waited = p.update.waited
  connected_eq : p'.update.connected = p.update.connected
  halted_eq : p'.update.halted = p.update.halted

/-- The second child has lost its secrets, and come as far as the first. -/
abbrev Censors : Pending ⊕ Leaf → Pending ⊕ Leaf → Prop :=
  Sum.LiftRel Pending.Censors fun l l' => l' = l.censored

theorem runOffline_censors {ps ps' : List Pending} (h : List.Forall₂ Pending.Censors ps ps') :
    List.Forall₂ Censors (runOffline ps).1 (runOffline ps').1 ∧
      (runOffline ps').2 = (runOffline ps).2 := by
  induction h with
  | nil => exact ⟨.nil, rfl⟩
  | cons hp hps ih =>
    unfold runOffline
    rw [hp.connected_eq, hp.halted_eq]
    split
    · exact ⟨.cons (.inl hp) ih.1, ih.2⟩
    · split
      · refine ⟨.cons (.inr hp.leaf_eq) ?_, rfl⟩
        rw [List.forall₂_map_left_iff, List.forall₂_map_right_iff]
        exact hps.imp fun _ _ hq => .inr hq.before_eq
      · exact ⟨.cons (.inr hp.leaf_eq) ih.1, ih.2⟩

theorem haltTime_censors {rest rest' : List (Pending ⊕ Leaf)}
    (h : List.Forall₂ Censors rest rest') : haltTime rest' = haltTime rest := by
  unfold haltTime
  congr 2
  induction h with
  | nil => rfl
  | cons hx _ ih =>
    cases hx with
    | inl hp => simp only [List.filterMap_cons, hp.halted_eq, hp.waited_eq, ih]
    | inr hl => exact ih

theorem Censors.cutOff {x x' : Pending ⊕ Leaf} (h : Censors x x') (limit : Nat) :
    cutOff limit x' = (cutOff limit x).censored := by
  cases h with
  | inl hp =>
    unfold Group.cutOff
    dsimp only
    rw [hp.waited_eq, apply_ite Leaf.censored]
    exact ite_congr rfl (fun _ => hp.leaf_eq) fun _ => hp.before_eq
  | inr hl => exact hl

theorem map_cutOff_censors {rest rest' : List (Pending ⊕ Leaf)}
    (h : List.Forall₂ Censors rest rest') (limit : Nat) :
    rest'.map (cutOff limit) = (rest.map (cutOff limit)).map Leaf.censored := by
  induction h with
  | nil => rfl
  | cons hx _ ih => exact congrArg₂ List.cons (hx.cutOff limit) ih

theorem runConnected_censors {rest rest' : List (Pending ⊕ Leaf)}
    (h : List.Forall₂ Censors rest rest') (limit : Nat) :
    runConnected limit rest' = (runConnected limit rest).map Leaf.censored := by
  induction h with
  | nil => rfl
  | cons hx hrest ih =>
    cases hx with
    | inl hp =>
      unfold runConnected
      rw [hp.waited_eq, hp.halted_eq]
      split
      · refine congrArg₂ List.cons hp.leaf_eq ?_
        split
        · exact map_cutOff_censors hrest limit
        · exact ih
      · exact congrArg₂ List.cons (Censors.cutOff (.inl hp) limit) ih
    | inr hl => exact congrArg₂ List.cons hl ih

theorem settle_censors {ps ps' : List Pending} (h : List.Forall₂ Pending.Censors ps ps') :
    (settle ps').1 = (settle ps).1.map Leaf.censored := by
  obtain ⟨hrest, hhalted⟩ := runOffline_censors h
  unfold settle
  dsimp only
  rw [hhalted, haltTime_censors hrest]
  split
  · exact map_cutOff_censors hrest 0
  · exact runConnected_censors hrest _

/-- The children of a group lose their secrets before an update or after it. -/
theorem update_censored {s : Surroundings} (hs : s.network.AnswersByUrl) {children : List Leaf}
    (hvalid : ∀ l ∈ children, l.content.HasValidTokens) :
    (update s (children.map Leaf.censored)).1 = (update s children).1.map Leaf.censored := by
  unfold update
  cases s.clock.read with
  | error => rfl
  | ok now =>
    have hchild (l : Leaf) (hl : l ∈ children) :
        Pending.Censors ⟨l, l.updateIfDue s now⟩ ⟨l.censored, l.censored.updateIfDue s now⟩ := by
      obtain ⟨sent, hsent⟩ := Leaf.updateIfDue_censored (hvalid l hl) hs now
      rw [hsent]
      exact ⟨rfl, rfl, rfl, rfl, rfl⟩
    have hhalted : (children.map (·.censored.updateIfDue s now)).any (·.halted) =
        (children.map (·.updateIfDue s now)).any (·.halted) := by
      rw [Bool.eq_iff_iff, List.any_map, List.any_map, List.any_eq_true, List.any_eq_true]
      exact exists_congr fun l => and_congr_right fun hl => iff_of_eq
        (congrArg (· = true) (hchild l hl).halted_eq)
    dsimp only
    rw [List.map_map]
    change Prod.fst (if (children.map (·.censored.updateIfDue s now)).any (·.halted) then _
      else _) = _
    -- The updates of both groups are settled, or those of neither.
    rw [hhalted, apply_ite Prod.fst, apply_ite Prod.fst, apply_ite (List.map Leaf.censored)]
    refine ite_congr rfl (fun _ => ?_) fun _ => ?_
    · apply settle_censors
      rw [List.zipWith_map, List.zipWith_map_right, List.zipWith_self, List.zipWith_self,
        List.forall₂_map_left_iff, List.forall₂_map_right_iff]
      exact List.forall₂_same.2 hchild
    · dsimp only
      rw [List.map_map, List.map_map, List.map_map]
      exact List.map_congr_left fun l hl => (hchild l hl).leaf_eq

end Group

end DashboardRefresh
