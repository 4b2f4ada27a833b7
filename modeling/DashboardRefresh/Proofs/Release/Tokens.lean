import DashboardRefresh.Proofs.Fetch.Sending
import DashboardRefresh.Proofs.Release.Requests
import DashboardRefresh.Proofs.Widget.Reachable

/-!
# Where tokens go

A list of releases sends its requests for its entries, and each token is in the requests for the
entries of its own source only. Updates leave the entries and the tokens alone, so this holds in
every run. Two runs in which the tokens differ and the answers do not make the same requests at the
same time, and those for the entries of a source whose token is the same in both are equal as a
whole.
-/

namespace DashboardRefresh

/-! ## Configurations -/

theorem exists_of_mem_of_mapM_eq_ok {ε α β : Type} {f : α → Except ε β} {xs : List α} {ys : List β}
    (h : xs.mapM f = .ok ys) {y : β} (hy : y ∈ ys) : ∃ x ∈ xs, f x = .ok y := by
  induction xs generalizing ys with
  | nil =>
    cases h
    cases hy
  | cons x xs ih =>
    rw [List.mapM_cons] at h
    obtain ⟨z, hz, h⟩ := exists_of_bind_eq_ok h
    obtain ⟨zs, hzs, h⟩ := exists_of_bind_eq_ok h
    cases h
    rcases List.mem_cons.1 hy with rfl | hy
    · exact ⟨x, List.mem_cons_self, hz⟩
    · obtain ⟨x', hx', heq⟩ := ih hzs hy
      exact ⟨x', List.mem_cons_of_mem x hx', heq⟩

namespace ReleasesConfig

/-- No root that is given for an API has a user name or a password. -/
def RootsHaveNoCredentials (c : ReleasesConfig) : Prop :=
  ∀ p ∈ c.baseUrls, ∀ root url, ReleaseList.baseUrl p.1 p.2 = .ok root →
    Url.parse root.2 = .ok url → url.username = "" ∧ url.password = none

/-- The tokens can stand in headers. -/
structure HasValidTokens (c : ReleasesConfig) : Prop where
  github : ∀ token ∈ c.githubToken, Header.isValue token
  gitlab : ∀ token ∈ c.gitlabToken, Header.isAsciiValue token

end ReleasesConfig

/-- The usual roots of the APIs have neither. -/
theorem ReleaseSource.defaultBaseUrl_noCredentials {source : ReleaseSource} {root : Url}
    (h : Url.parse source.defaultBaseUrl = .ok root) :
    root.username = "" ∧ root.password = none := by
  have hall : (Url.parse source.defaultBaseUrl).toOption.all
      fun root => root.username = "" ∧ root.password = none := by
    cases source <;> decide +kernel
  rw [h] at hall
  simpa [Except.toOption] using hall

namespace ReleaseList

variable {c : ReleasesConfig} {L : ReleaseList}

theorem mem_token {given : Option String} {value : String} :
    value ∈ token given ↔ value ∈ given ∧ value ≠ "" := by
  rw [token, Option.mem_def, Option.filter_eq_some_iff, Option.mem_def, Bool.not_eq_true',
    ← Bool.not_eq_true, String.isEmpty_iff]

theorem endpoints_of_ofConfig (h : ofConfig c = .ok L) :
    c.baseUrls.mapM (fun p => baseUrl p.1 p.2) = .ok L.endpoints.baseUrls ∧
      L.endpoints.githubToken = token c.githubToken ∧
      L.endpoints.gitlabToken = token c.gitlabToken := by
  unfold ofConfig at h
  split at h
  · cases h
  · obtain ⟨entries, _, h⟩ := exists_of_bind_eq_ok h
    obtain ⟨baseUrls, hroots, h⟩ := exists_of_bind_eq_ok h
    dsimp only at h
    split at h
    · cases h
    · cases h
      exact ⟨hroots, rfl, rfl⟩

/-- The list with other tokens. -/
def withTokens (L : ReleaseList) (github gitlab : Option String) : ReleaseList :=
  { L with
    endpoints := { L.endpoints with githubToken := token github, gitlabToken := token gitlab } }

/-- Tokens do not decide whether a list is valid. -/
theorem ofConfig_withTokens (h : ofConfig c = .ok L) (github gitlab : Option String) :
    ofConfig { c with githubToken := github, gitlabToken := gitlab } =
      .ok (L.withTokens github gitlab) := by
  unfold ofConfig at h ⊢
  dsimp only
  split at h
  · cases h
  · rename_i hne
    obtain ⟨entries, hentries, h⟩ := exists_of_bind_eq_ok h
    obtain ⟨baseUrls, hroots, h⟩ := exists_of_bind_eq_ok h
    dsimp only at h
    split at h
    · cases h
    · rename_i hlimit
      cases h
      rw [if_neg hne, hentries, hroots]
      exact if_neg hlimit

theorem haveNoCredentials (h : ofConfig c = .ok L) (hroots : c.RootsHaveNoCredentials) :
    L.endpoints.HaveNoCredentials := by
  intro source root hparse
  unfold Endpoints.baseUrl at hparse
  cases hlookup : L.endpoints.baseUrls.lookup source with
  | none =>
    rw [hlookup] at hparse
    exact ReleaseSource.defaultBaseUrl_noCredentials hparse
  | some text =>
    rw [hlookup] at hparse
    obtain ⟨_, _, heq, _⟩ := List.lookup_eq_some_iff.1 hlookup
    have hmem : (source, text) ∈ L.endpoints.baseUrls := by simp [heq]
    obtain ⟨p, hp, hroot⟩ := exists_of_mem_of_mapM_eq_ok (endpoints_of_ofConfig h).1 hmem
    exact hroots p hp _ root hroot hparse

theorem haveValidTokens (h : ofConfig c = .ok L) (hvalid : c.HasValidTokens) :
    L.endpoints.HaveValidTokens := by
  obtain ⟨_, hgithub, hgitlab⟩ := endpoints_of_ofConfig h
  refine ⟨fun token htoken => ?_, fun token htoken => ?_⟩
  · rw [hgithub] at htoken
    exact hvalid.github token (mem_token.1 htoken).1
  · rw [hgitlab] at htoken
    exact hvalid.gitlab token (mem_token.1 htoken).1

end ReleaseList

/-- The tokens that a request for an entry carries: the one of GitHub or of GitLab if the entry is
one of that source and the token is not empty, and no other authorization. -/
structure Request.CarriesTokensOf (c : ReleasesConfig) (e : ReleaseEntry) (r : Request) : Prop where
  authorization : ∀ value, ("authorization", value) ∈ r.sentHeaders ↔ e.source = .github ∧
    ∃ token ∈ c.githubToken, token ≠ "" ∧ value = Text.trim ("Bearer " ++ token)
  privateToken : ∀ value, ("private-token", value) ∈ r.sentHeaders ↔ e.source = .gitlab ∧
    ∃ token ∈ c.gitlabToken, token ≠ "" ∧ value = Text.trim token

theorem ReleaseList.carriesTokensOf {c : ReleasesConfig} {L : ReleaseList} {e : ReleaseEntry}
    {timeout : Duration} {r : Request} (h : ofConfig c = .ok L) (hroots : c.RootsHaveNoCredentials)
    (hr : e.request? L.endpoints timeout = some r) : r.CarriesTokensOf c e := by
  obtain ⟨_, hgithub, hgitlab⟩ := endpoints_of_ofConfig h
  have hheaders := ReleaseEntry.headers_of_request? (haveNoCredentials h hroots) hr
  refine ⟨fun value => ?_, fun value => ?_⟩
  · rw [Request.mem_sentHeaders (by decide) (by decide), hheaders]
    simp only [ReleaseEntry.mem_headers_authorization, hgithub, mem_token]
    constructor
    · rintro ⟨_, ⟨hsource, token, ⟨hmem, hne⟩, rfl⟩, rfl⟩
      exact ⟨hsource, token, hmem, hne, rfl⟩
    · rintro ⟨hsource, token, hmem, hne, rfl⟩
      exact ⟨_, ⟨hsource, token, ⟨hmem, hne⟩, rfl⟩, rfl⟩
  · rw [Request.mem_sentHeaders (by decide) (by decide), hheaders]
    simp only [ReleaseEntry.mem_headers_privateToken, hgitlab, mem_token]
    constructor
    · rintro ⟨token, ⟨hsource, hmem, hne⟩, rfl⟩
      exact ⟨hsource, token, hmem, hne, rfl⟩
    · rintro ⟨hsource, token, hmem, hne, rfl⟩
      exact ⟨token, ⟨hsource, hmem, hne⟩, rfl⟩

/-! ## What an update sends -/

/-- The requests `made` are those that were sent, each for the entry that it stands with. -/
structure ReleaseList.Sends (L : ReleaseList) (timeout : Duration) (sent : List Request)
    (made : List (ReleaseEntry × Request)) : Prop where
  sent_eq : sent = made.map (·.2)
  entries_sublist : (made.map (·.1)).Sublist L.entries
  request?_eq : ∀ e r, (e, r) ∈ made → e.request? L.endpoints timeout = some r

namespace ReleaseList

variable {L : ReleaseList} {network : Network} {timeout : Duration} {cancellation : Cancellation}

/-- The requests of the lookups that are started. -/
def made (L : ReleaseList) (network : Network) (timeout : Duration) (starts : List (Option Nat)) :
    List (ReleaseEntry × Request) :=
  requestsFor (fun e => (e.lookup L.endpoints network timeout).sent) L.entries starts

theorem sends_made (L : ReleaseList) (network : Network) (timeout : Duration)
    (cancellation : Cancellation) : L.Sends timeout (L.lookUp network timeout cancellation).sent
      (L.made network timeout (startsOf workers cancellation
        (L.entries.map fun e => e.lookup L.endpoints network timeout))) where
  sent_eq := runAttempts_sent workers cancellation L.entries fun e =>
    e.lookup L.endpoints network timeout
  entries_sublist := requestsFor_keys_sublist
  request?_eq _ _ hmem :=
    ReleaseEntry.request?_of_lookup_sent (request?_of_mem_requestsFor hmem)

theorem Sends.nil (L : ReleaseList) (timeout : Duration) : L.Sends timeout [] [] where
  sent_eq := rfl
  entries_sublist := List.nil_sublist _
  request?_eq _ _ hmem := by cases hmem

end ReleaseList

namespace Leaf

/-- The leaf is a list of releases that differs from `L` by the releases that it shows only. -/
def IsListOf (L : ReleaseList) (l : Leaf) : Prop :=
  ∃ releases, l.content = .releases { L with releases }

variable {L : ReleaseList} {l : Leaf}

theorem IsListOf.update (hl : l.IsListOf L) (s : Surroundings) :
    (l.update s).leaf.IsListOf L ∧
      (l.update s).sent = (L.lookUp s.network s.requestTimeout s.cancellation).sent := by
  obtain ⟨releases, hcontent⟩ := hl
  rw [update_of_releases hcontent]
  unfold finish
  split
  · exact ⟨⟨releases, hcontent⟩, rfl⟩
  · refine ⟨?_, rfl⟩
    dsimp only [IsListOf]
    split
    · exact ⟨_, rfl⟩
    · exact ⟨releases, hcontent⟩

theorem IsListOf.reaches (hl : l.IsListOf L) {l' : Leaf} (h : l.Reaches (fun _ => True) l') :
    l'.IsListOf L := by
  induction h with
  | refl => exact hl
  | tail _ hstep ih =>
    obtain ⟨s, _, rfl⟩ := hstep
    exact (ih.update s).1

end Leaf

/-! ## Two runs -/

namespace ReleaseList

/-- Two networks answer the requests for each entry alike, one those with the tokens of the first
list, the other those with the tokens of the second. -/
def AnsweredAlike (L L' : ReleaseList) (timeout : Duration) (network network' : Network) : Prop :=
  ∀ e ∈ L.entries, ∀ r r', e.request? L.endpoints timeout = some r →
    e.request? L'.endpoints timeout = some r' → network' r' = network r

/-- Two requests for the same entry, which are equal as a whole if the token of its source is. -/
def EqualUpToToken (endpoints others : Endpoints) (p q : ReleaseEntry × Request) : Prop :=
  q.1 = p.1 ∧
    ((p.1.source = .github → others.githubToken = endpoints.githubToken) →
      (p.1.source = .gitlab → others.gitlabToken = endpoints.gitlabToken) → q.2 = p.2)

section Twins

variable {L : ReleaseList} {others : Endpoints} {timeout : Duration} {network network' : Network}
  (hroots : others.baseUrls = L.endpoints.baseUrls) (hvalid : L.endpoints.HaveValidTokens)
  (hothers : others.HaveValidTokens)
  (halike : L.AnsweredAlike { L with endpoints := others } timeout network network')
  (cancellation : Cancellation)
include hroots hvalid hothers halike

theorem lookups_alike {e : ReleaseEntry} (he : e ∈ L.entries) :
    ∃ sent, e.lookup others network' timeout =
        { e.lookup L.endpoints network timeout with sent } ∧
      sent.isSome = (e.lookup L.endpoints network timeout).sent.isSome :=
  ReleaseEntry.lookup_alike hroots hvalid hothers (halike e he)

theorem tasks_alike :
    (L.entries.map fun e => e.lookup others network' timeout).map Attempt.task =
      (L.entries.map fun e => e.lookup L.endpoints network timeout).map Attempt.task := by
  rw [List.map_map, List.map_map]
  apply List.map_congr_left
  intro e he
  obtain ⟨sent, hlookup, _⟩ := lookups_alike hroots hvalid hothers halike he
  simp only [Function.comp_apply, hlookup]
  rfl

/-- The lookups with other tokens come to the same. -/
theorem lookUp_alike : lookUp { L with endpoints := others } network' timeout cancellation =
    { L.lookUp network timeout cancellation with
      sent := (lookUp { L with endpoints := others } network' timeout cancellation).sent } := by
  apply runAttempts_congr (tasks_alike hroots hvalid hothers halike)
  rw [List.map_map, List.map_map]
  apply List.map_congr_left
  intro e he
  obtain ⟨sent, hlookup, _⟩ := lookups_alike hroots hvalid hothers halike he
  simp only [Function.comp_apply, hlookup]

/-- Their requests are made for the same entries. -/
theorem sends_alike : ∃ made made',
    L.Sends timeout (L.lookUp network timeout cancellation).sent made ∧
      Sends { L with endpoints := others } timeout
        (lookUp { L with endpoints := others } network' timeout cancellation).sent made' ∧
      List.Forall₂ (EqualUpToToken L.endpoints others) made made' := by
  refine ⟨_, _, L.sends_made network timeout cancellation,
    sends_made { L with endpoints := others } network' timeout cancellation, ?_⟩
  dsimp only
  rw [startsOf_congr (tasks_alike hroots hvalid hothers halike)]
  unfold made
  dsimp only
  have hsame (e : ReleaseEntry) (he : e ∈ L.entries) :
      (e.lookup others network' timeout).sent.isSome =
        (e.lookup L.endpoints network timeout).sent.isSome := by
    obtain ⟨sent, hlookup, hsome⟩ := lookups_alike hroots hvalid hothers halike he
    rw [hlookup]
    exact hsome
  refine (requestsFor_sameKey hsame).imp fun p q h => ⟨h.key_eq, fun hgithub hgitlab => ?_⟩
  have hp := ReleaseEntry.request?_of_lookup_sent h.request?_eq
  have hq := ReleaseEntry.request?_of_lookup_sent h.other?_eq
  rw [h.key_eq] at hq
  exact (ReleaseEntry.request?_alike hroots hp hq).2
    (ReleaseEntry.headers_congr hgithub hgitlab)

end Twins

end ReleaseList

/-- A sweep that two leaves go through, which differ in their tokens, each with a network of its
own. -/
structure TwinSweep where
  surroundings : Surroundings
  now : Instant
  /-- The network of the second leaf. -/
  network : Network

namespace TwinSweep

def first (t : TwinSweep) (l : Leaf) : LeafUpdate := l.updateIfDue t.surroundings t.now

def second (t : TwinSweep) (l : Leaf) : LeafUpdate :=
  l.updateIfDue { t.surroundings with network := t.network } t.now

/-- Both leaves get the same answers. -/
def IsAlike (L L' : ReleaseList) (t : TwinSweep) : Prop :=
  L.AnsweredAlike L' t.surroundings.requestTimeout t.surroundings.network t.network

/-- The first leaf after some sweeps. -/
def runFirst (sweeps : List TwinSweep) (l : Leaf) : Leaf :=
  sweeps.foldl (fun l t => (t.first l).leaf) l

/-- The second leaf after some sweeps. -/
def runSecond (sweeps : List TwinSweep) (l : Leaf) : Leaf :=
  sweeps.foldl (fun l t => (t.second l).leaf) l

end TwinSweep

/-- Two lists of releases in the same state. -/
structure Leaf.Twins (L L' : ReleaseList) (l l' : Leaf) : Prop where
  base_eq : l'.base = l.base
  content_eq : ∃ releases, l.content = .releases { L with releases } ∧
    l'.content = .releases { L' with releases }

namespace Leaf

theorem Twins.isDue_eq {L L' : ReleaseList} {l l' : Leaf} (h : l.Twins L L' l') (now : Instant) :
    l'.isDue now = l.isDue now := by
  unfold isDue
  rw [h.base_eq]

theorem Twins.finish {L L' : ReleaseList} {l l' : Leaf} (h : l.Twins L L' l') {c c' : Cycle}
    (houtcome : c'.outcome = c.outcome) (hfirst : c'.storedFirst = c.storedFirst)
    (hcontent : ∃ releases, c.content = .releases { L with releases } ∧
      c'.content = .releases { L' with releases }) {s : Surroundings} (network' : Network) :
    (l.finish s c).leaf.Twins L L' (l'.finish { s with network := network' } c').leaf := by
  unfold Leaf.finish
  dsimp only
  cases s.clock.read with
  | error => exact h
  | ok now =>
    dsimp only
    rw [h.base_eq, houtcome, hfirst]
    refine ⟨rfl, ?_⟩
    dsimp only
    split
    · exact hcontent
    · exact h.content_eq

section Twins

variable {L : ReleaseList} {others : Endpoints} {l l' : Leaf}
  (hroots : others.baseUrls = L.endpoints.baseUrls) (hvalid : L.endpoints.HaveValidTokens)
  (hothers : others.HaveValidTokens)
include hroots hvalid hothers

/-- An update makes the same of both. -/
theorem Twins.update (h : l.Twins L { L with endpoints := others } l') {s : Surroundings}
    {network' : Network}
    (halike : L.AnsweredAlike { L with endpoints := others } s.requestTimeout s.network network') :
    (l.update s).leaf.Twins L { L with endpoints := others }
      (l'.update { s with network := network' }).leaf := by
  have hbatch : (ReleaseList.lookUp { L with endpoints := others } network' s.requestTimeout
      s.cancellation).batch = (L.lookUp s.network s.requestTimeout s.cancellation).batch := by
    rw [ReleaseList.lookUp_alike hroots hvalid hothers halike]
  obtain ⟨releases, hl, hl'⟩ := h.content_eq
  rw [update_of_releases hl, update_of_releases hl']
  apply h.finish
  · exact congrArg (fun batch => Outcome.ofResult (batch.classify "releases")) hbatch
  · rfl
  · exact ⟨_, rfl, congrArg (fun batch => Content.releases
      (ReleaseList.store { L with endpoints := others, releases } batch)) hbatch⟩

/-- They go through a sweep with the same answers side by side. -/
theorem Twins.sweep (h : l.Twins L { L with endpoints := others } l') {t : TwinSweep}
    (halike : t.IsAlike L { L with endpoints := others }) :
    (t.first l).leaf.Twins L { L with endpoints := others } (t.second l').leaf := by
  unfold TwinSweep.first TwinSweep.second updateIfDue
  rw [h.isDue_eq]
  split
  · exact h.update hroots hvalid hothers halike
  · exact h

theorem Twins.run (h : l.Twins L { L with endpoints := others } l') {sweeps : List TwinSweep}
    (halike : ∀ t ∈ sweeps, t.IsAlike L { L with endpoints := others }) :
    (TwinSweep.runFirst sweeps l).Twins L { L with endpoints := others }
      (TwinSweep.runSecond sweeps l') := by
  induction sweeps generalizing l l' with
  | nil => exact h
  | cons t sweeps ih =>
    exact ih (h.sweep hroots hvalid hothers (halike t List.mem_cons_self)) fun t' ht' =>
      halike t' (List.mem_cons_of_mem t ht')

/-- In a sweep both send requests for the same entries, or neither sends any. -/
theorem Twins.sends (h : l.Twins L { L with endpoints := others } l') {t : TwinSweep}
    (halike : t.IsAlike L { L with endpoints := others }) : ∃ made made',
      L.Sends t.surroundings.requestTimeout (t.first l).sent made ∧
      ReleaseList.Sends { L with endpoints := others } t.surroundings.requestTimeout
        (t.second l').sent made' ∧
      List.Forall₂ (ReleaseList.EqualUpToToken L.endpoints others) made made' := by
  obtain ⟨releases, hl, hl'⟩ := h.content_eq
  unfold TwinSweep.first TwinSweep.second updateIfDue
  rw [h.isDue_eq]
  split
  · have hsent := (IsListOf.update (L := L) ⟨releases, hl⟩ t.surroundings).2
    have hsent' := (IsListOf.update (L := { L with endpoints := others }) ⟨releases, hl'⟩
      { t.surroundings with network := t.network }).2
    rw [hsent, hsent']
    exact ReleaseList.sends_alike hroots hvalid hothers halike _
  · exact ⟨[], [], .nil _ _, .nil _ _, .nil⟩

end Twins

/-- In every run of a list of releases its requests carry the token of their own source and no
other. A list with other tokens goes through the same run if it gets the same answers: it makes
requests for the same entries, and that for an entry is equal as a whole unless the token of the
source of the entry is another one. -/
theorem tokens_confined {c : ReleasesConfig} {L : ReleaseList}
    (hL : ReleaseList.ofConfig c = .ok L) (hroots : c.RootsHaveNoCredentials) (base : WidgetBase) :
    (∀ (l : Leaf) (s : Surroundings), Reaches (fun _ => True) ⟨base, .releases L⟩ l →
      ∃ made, L.Sends s.requestTimeout (l.update s).sent made ∧
        ∀ e r, (e, r) ∈ made → r.CarriesTokensOf c e) ∧
    ∀ github gitlab : Option String,
      let c' : ReleasesConfig := { c with githubToken := github, gitlabToken := gitlab }
      ∃ L', ReleaseList.ofConfig c' = .ok L' ∧
        (c.HasValidTokens → c'.HasValidTokens → ∀ (sweeps : List TwinSweep) (t : TwinSweep),
          (∀ t' ∈ sweeps, t'.IsAlike L L') → t.IsAlike L L' →
          ∃ made made',
            L.Sends t.surroundings.requestTimeout
              (t.first (TwinSweep.runFirst sweeps ⟨base, .releases L⟩)).sent made ∧
            L'.Sends t.surroundings.requestTimeout
              (t.second (TwinSweep.runSecond sweeps ⟨base, .releases L'⟩)).sent made' ∧
            List.Forall₂ (fun p q => q.1 = p.1 ∧
              ((p.1.source = .github → github = c.githubToken) →
                (p.1.source = .gitlab → gitlab = c.gitlabToken) → q.2 = p.2)) made made') := by
  refine ⟨fun l s hreaches => ?_, fun github gitlab => ?_⟩
  · have hlist : l.IsListOf L := IsListOf.reaches ⟨L.releases, rfl⟩ hreaches
    rw [(hlist.update s).2]
    have hsends := L.sends_made s.network s.requestTimeout s.cancellation
    exact ⟨_, hsends, fun e r hmade =>
      ReleaseList.carriesTokensOf hL hroots (hsends.request?_eq e r hmade)⟩
  · intro c'
    have hL' := ReleaseList.ofConfig_withTokens hL github gitlab
    refine ⟨_, hL', fun hvalid hvalid' sweeps t hsweeps ht => ?_⟩
    let others := (L.withTokens github gitlab).endpoints
    have hbaseUrls : others.baseUrls = L.endpoints.baseUrls := rfl
    have htokens := ReleaseList.haveValidTokens hL hvalid
    have htokens' : others.HaveValidTokens := ReleaseList.haveValidTokens hL' hvalid'
    have hstart : Twins L { L with endpoints := others } ⟨base, .releases L⟩
        ⟨base, .releases { L with endpoints := others }⟩ := ⟨rfl, L.releases, rfl, rfl⟩
    have hrun := hstart.run hbaseUrls htokens htokens' hsweeps
    obtain ⟨made, made', hmade, hmade', hpairs⟩ := hrun.sends hbaseUrls htokens htokens' ht
    refine ⟨made, made', hmade, hmade', hpairs.imp fun p q h => ⟨h.1, fun hgithub hgitlab => ?_⟩⟩
    obtain ⟨_, hgithubToken, hgitlabToken⟩ := ReleaseList.endpoints_of_ofConfig hL
    refine h.2 (fun hsource => ?_) fun hsource => ?_
    · exact (congrArg ReleaseList.token (hgithub hsource)).trans hgithubToken.symm
    · exact (congrArg ReleaseList.token (hgitlab hsource)).trans hgitlabToken.symm

end Leaf

/-- Entries of all sources, which are looked up at one mirror. -/
def ReleasesConfig.mirrored : ReleasesConfig where
  repositories :=
    ["owner/tool", "gitlab:group/tool", "codeberg:owner/tool", "dockerhub:library/tool"]
  githubToken := some "first"
  gitlabToken := some "second"
  baseUrls := ReleaseSource.all.map fun source => (source.name, "http://a.test")
  limit := none

/-- A sweep in which the mirror has nothing. -/
def TwinSweep.empty (now : Instant) : TwinSweep where
  surroundings := ⟨.setTo now, 0, .ofTable [], .ofSeconds 10, .never, fun _ => true⟩
  now := now
  network := .ofTable []

/-- With a new token of GitHub a list asks a mirror for the same four entries, and sends the same
requests for those of the other sources. -/
theorem Leaf.tokens_confined_mirrored :
    let mirrored := ReleasesConfig.mirrored
    let renewed : ReleasesConfig := { mirrored with githubToken := some "renewed" }
    let base := WidgetBase.ofConfig 0 .releases ⟨none, none, false, none, none⟩
    let t := TwinSweep.empty .epoch
    ∃ L L', ReleaseList.ofConfig mirrored = .ok L ∧ ReleaseList.ofConfig renewed = .ok L' ∧
      mirrored.RootsHaveNoCredentials ∧ mirrored.HasValidTokens ∧ renewed.HasValidTokens ∧
      t.IsAlike L L' ∧
      (∃ made, L.Sends (.ofSeconds 10) (t.first ⟨base, .releases L⟩).sent made ∧
        ∀ e r, (e, r) ∈ made → r.CarriesTokensOf mirrored e) ∧
      ∃ made made', made.length = 4 ∧
        L.Sends (.ofSeconds 10) (t.first ⟨base, .releases L⟩).sent made ∧
        L'.Sends (.ofSeconds 10) (t.second ⟨base, .releases L'⟩).sent made' ∧
        List.Forall₂ (fun p q => q.1 = p.1 ∧ (p.1.source ≠ .github → q.2 = p.2)) made made' := by
  intro mirrored renewed base t
  obtain ⟨L, hL⟩ : ∃ L, ReleaseList.ofConfig mirrored = .ok L := ⟨_, rfl⟩
  have hroots : mirrored.RootsHaveNoCredentials := by
    have hall : ∀ p ∈ mirrored.baseUrls, ((ReleaseList.baseUrl p.1 p.2).toOption.bind fun root =>
        (Url.parse root.2).toOption).all fun url => url.username = "" ∧ url.password = none := by
      decide +kernel
    intro p hp root url hroot hurl
    simpa [hroot, hurl, Except.toOption] using hall p hp
  have hvalid : mirrored.HasValidTokens :=
    ⟨fun _ htoken => Option.some.inj htoken ▸ by decide,
      fun _ htoken => Option.some.inj htoken ▸ by decide⟩
  have hrenewed : renewed.HasValidTokens :=
    ⟨fun _ htoken => Option.some.inj htoken ▸ by decide, hvalid.gitlab⟩
  obtain ⟨hconfined, hothers⟩ := tokens_confined hL hroots base
  obtain ⟨L', hL', hpairs⟩ := hothers (some "renewed") (some "second")
  have halike : t.IsAlike L L' := by
    intro e _ r r' hr hr'
    have hsame := ReleaseList.ofConfig_withTokens hL (some "renewed") (some "second")
    obtain rfl := Except.ok.inj (hL'.symm.trans hsame)
    have hbaseUrls : (L.withTokens (some "renewed") (some "second")).endpoints.baseUrls =
        L.endpoints.baseUrls := rfl
    rw [(ReleaseEntry.request?_alike hbaseUrls hr hr').1]
    rfl
  obtain ⟨made, made', hsends, hsends', hmade⟩ :=
    hpairs hvalid hrenewed [] t (by simp) halike
  refine ⟨L, L', hL, hL', hroots, hvalid, hrenewed, halike,
    hconfined ⟨base, .releases L⟩ t.surroundings .refl, made, made', ?_, hsends, hsends',
    hmade.imp fun p q h => ⟨h.1, fun hsource => h.2 (absurd · hsource) fun _ => rfl⟩⟩
  have hsent : (t.first ⟨base, .releases L⟩).sent = made.map (·.2) := hsends.sent_eq
  rw [← List.length_map (·.2), ← hsent]
  cases hL
  decide +kernel

end DashboardRefresh
