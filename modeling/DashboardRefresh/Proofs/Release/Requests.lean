import DashboardRefresh.Proofs.Board.Building

/-!
# Requests for releases

The request for an entry is made for a URL below the root of the API of its source, and gets the
headers of that source. Among them is the token of the source itself, and no other, so that a root
without a user name and a password leaves the request without any further authorization. A lookup
makes of the answer what its entry and the URL call for, whatever the headers were.
-/

namespace DashboardRefresh

/-! ## Headers -/

namespace Header

theorem isValue_of_isAsciiValue {value : String} (h : isAsciiValue value) : isValue value := by
  unfold isAsciiValue at h
  unfold isValue
  rw [List.all_eq_true] at h ⊢
  intro c hc
  exact (Bool.and_eq_true_iff.1 (h c hc)).1

theorem isValue_bearer {token : String} (h : isValue token) : isValue ("Bearer " ++ token) := by
  have hprefix : isValue "Bearer " := by decide
  unfold isValue at *
  rw [String.toList_append, List.all_append, hprefix, h]
  rfl

end Header

namespace Request

variable {r r' : Request} {name value : String}

theorem addHeader_eq_ok (h : r.addHeader name value = .ok r') :
    r' = { r with headers := r.headers ++ [(name.map Char.toLower, value)] } := by
  unfold addHeader at h
  split at h
  · exact (Except.ok.inj h).symm
  · cases h

theorem addAsciiHeader_eq_ok (h : r.addAsciiHeader name value = .ok r') :
    r' = { r with headers := r.headers ++ [(name.map Char.toLower, value)] } := by
  unfold addAsciiHeader at h
  split at h
  · exact addHeader_eq_ok h
  · cases h

theorem exists_addHeader (hname : Header.isName name) (hvalue : Header.isValue value) :
    ∃ r', r.addHeader name value = .ok r' :=
  ⟨_, if_pos ⟨hname, hvalue⟩⟩

/-- A request carries the headers that it was given, apart from blanks around their values, and the
usual ones. -/
theorem mem_sentHeaders (haccept : name ≠ "accept") (hagent : name ≠ "user-agent") :
    (name, value) ∈ r.sentHeaders ↔
      ∃ given, (name, given) ∈ r.headers ∧ value = Text.trim given := by
  have husual : (name, value) ∉ [("accept", "*/*"), ("user-agent", userAgent)].filter fun h =>
      (r.headers.lookup h.1).isNone := by
    intro hmem
    have hname := (List.mem_filter.1 hmem).1
    simp [haccept, hagent] at hname
  unfold sentHeaders
  dsimp only
  rw [List.mem_append, or_iff_left husual, List.mem_map]
  constructor
  · rintro ⟨⟨_, given⟩, hmem, heq⟩
    obtain ⟨rfl, rfl⟩ := Prod.mk.inj heq
    exact ⟨given, hmem, rfl⟩
  · rintro ⟨given, hmem, rfl⟩
    exact ⟨(name, given), hmem, rfl⟩

/-- The URL of a request without a user name and a password gives it no header. -/
theorem headers_of_ofUrl {method : Method} {url : Url} {timeout : Duration}
    (h : ofUrl method url timeout = .ok r) (husername : url.username = "")
    (hpassword : url.password = none) : r.headers = [] := by
  have hnone : credentialsOf? url = none := by
    unfold credentialsOf?
    rw [husername, hpassword]
    rfl
  unfold ofUrl at h
  rw [hnone] at h
  split at h
  · cases h
  · cases h
    rfl

end Request

/-! ## Roots of APIs -/

/-- A URL below a root has the user name and the password of the root. -/
theorem credentials_of_apiUrl {base : String} {segments : List String} {url : Url}
    (h : apiUrl base segments = .ok url) :
    ∃ root, Url.parse base = .ok root ∧ url.username = root.username ∧
      url.password = root.password := by
  unfold apiUrl at h
  split at h
  · cases h
  · rename_i root hroot
    split at h
    · rename_i below hbelow
      cases h
      unfold Url.append? at hbelow
      split at hbelow
      · cases hbelow
      · cases hbelow
        exact ⟨root, hroot, rfl, rfl⟩
    · cases h

/-- No root has a user name or a password. -/
def Endpoints.HaveNoCredentials (endpoints : Endpoints) : Prop :=
  ∀ source root, Url.parse (endpoints.baseUrl source) = .ok root →
    root.username = "" ∧ root.password = none

/-- The tokens can stand in headers. -/
structure Endpoints.HaveValidTokens (endpoints : Endpoints) : Prop where
  github : ∀ token ∈ endpoints.githubToken, Header.isValue token
  gitlab : ∀ token ∈ endpoints.gitlabToken, Header.isAsciiValue token

namespace ReleaseEntry

variable {e : ReleaseEntry} {endpoints others : Endpoints} {timeout : Duration} {r r' : Request}

/-- The headers of requests for an entry. -/
def headers (e : ReleaseEntry) (endpoints : Endpoints) : List (String × String) :=
  match e.source with
  | .github => ("accept", "application/json") ::
      (endpoints.githubToken.map fun token => ("authorization", "Bearer " ++ token)).toList
  | .codeberg => [("accept", "application/json")]
  | .gitlab => (endpoints.gitlabToken.map fun token => ("private-token", token)).toList
  | .dockerhub => []

/-- Only the token of its own source is among the headers of an entry. -/
theorem headers_congr
    (hgithub : e.source = .github → others.githubToken = endpoints.githubToken)
    (hgitlab : e.source = .gitlab → others.gitlabToken = endpoints.gitlabToken) :
    e.headers others = e.headers endpoints := by
  unfold headers
  cases hsource : e.source with
  | github => rw [hgithub hsource]
  | gitlab => rw [hgitlab hsource]
  | codeberg => rfl
  | dockerhub => rfl

theorem mem_headers_authorization {value : String} :
    ("authorization", value) ∈ e.headers endpoints ↔
      e.source = .github ∧ ∃ token ∈ endpoints.githubToken, value = "Bearer " ++ token := by
  unfold headers
  cases e.source <;> cases endpoints.githubToken <;> simp

theorem mem_headers_privateToken {value : String} :
    ("private-token", value) ∈ e.headers endpoints ↔
      e.source = .gitlab ∧ value ∈ endpoints.gitlabToken := by
  unfold headers
  cases e.source <;> simp

theorem addHeaders_eq_ok (h : e.addHeaders endpoints r = .ok r') :
    r' = { r with headers := r.headers ++ e.headers endpoints } := by
  have haccept : "Accept".map Char.toLower = "accept" := by decide +kernel
  have hauthorization : "Authorization".map Char.toLower = "authorization" := by decide +kernel
  have hprivate : "PRIVATE-TOKEN".map Char.toLower = "private-token" := by decide +kernel
  unfold addHeaders at h
  unfold headers
  cases hsource : e.source with
  | github =>
    cases htoken : endpoints.githubToken with
    | none =>
      simp only [hsource, htoken] at h
      rw [Request.addHeader_eq_ok h, haccept]
      rfl
    | some token =>
      simp only [hsource, htoken] at h
      obtain ⟨accepting, haccepting, hauthorized⟩ := exists_of_bind_eq_ok h
      rw [Request.addHeader_eq_ok hauthorized, Request.addHeader_eq_ok haccepting, haccept,
        hauthorization]
      simp
  | codeberg =>
    simp only [hsource] at h
    rw [Request.addHeader_eq_ok h, haccept]
  | gitlab =>
    cases htoken : endpoints.gitlabToken with
    | none =>
      simp only [hsource, htoken] at h
      cases h
      simp
    | some token =>
      simp only [hsource, htoken] at h
      rw [Request.addAsciiHeader_eq_ok h, hprivate]
      rfl
  | dockerhub =>
    simp only [hsource] at h
    cases h
    simp

/-- Tokens that can stand in headers do not keep a request from being made. -/
theorem exists_addHeaders (hvalid : endpoints.HaveValidTokens) (r : Request) :
    ∃ r', e.addHeaders endpoints r = .ok r' := by
  have haccept (r : Request) : ∃ r', r.addHeader "Accept" "application/json" = .ok r' :=
    Request.exists_addHeader (by decide) (by decide)
  unfold addHeaders
  cases e.source with
  | github =>
    cases htoken : endpoints.githubToken with
    | none => exact haccept r
    | some token =>
      have hvalue := Header.isValue_bearer (hvalid.github token htoken)
      obtain ⟨accepting, haccepting⟩ := haccept r
      have hname : Header.isName "Authorization" := by decide
      obtain ⟨r', hr'⟩ := accepting.exists_addHeader hname hvalue
      refine ⟨r', ?_⟩
      dsimp only
      rw [haccepting]
      exact hr'
  | codeberg => exact haccept r
  | gitlab =>
    cases htoken : endpoints.gitlabToken with
    | none => exact ⟨r, rfl⟩
    | some token =>
      have hascii := hvalid.gitlab token htoken
      have hname : Header.isName "PRIVATE-TOKEN" := by decide
      obtain ⟨r', hr'⟩ := r.exists_addHeader hname (Header.isValue_of_isAsciiValue hascii)
      exact ⟨r', (if_pos hascii).trans hr'⟩
  | dockerhub => exact ⟨r, rfl⟩

/-! ## Requests -/

/-- The request for an entry, if one can be made. -/
def request? (e : ReleaseEntry) (endpoints : Endpoints) (timeout : Duration) : Option Request := do
  let url ← (apiUrl (endpoints.baseUrl e.source) e.segments).toOption
  (e.request endpoints timeout url).toOption

theorem request_eq_ok {url : Url} (h : e.request endpoints timeout url = .ok r) :
    ∃ plain, Request.ofUrl .get url timeout = .ok plain ∧
      r = { plain with headers := plain.headers ++ e.headers endpoints } := by
  obtain ⟨plain, hplain, hadded⟩ := exists_of_bind_eq_ok h
  exact ⟨plain, hplain, addHeaders_eq_ok hadded⟩

theorem request?_eq_some (h : e.request? endpoints timeout = some r) :
    ∃ url, apiUrl (endpoints.baseUrl e.source) e.segments = .ok url ∧
      e.request endpoints timeout url = .ok r := by
  unfold request? at h
  cases hurl : apiUrl (endpoints.baseUrl e.source) e.segments with
  | error =>
    rw [hurl] at h
    cases h
  | ok url =>
    rw [hurl] at h
    refine ⟨url, rfl, ?_⟩
    change (e.request endpoints timeout url).toOption = some r at h
    cases hrequest : e.request endpoints timeout url with
    | error =>
      rw [hrequest] at h
      cases h
    | ok r' =>
      rw [hrequest] at h
      exact congrArg Except.ok (Option.some.inj h)

theorem request?_of_request {url : Url}
    (hurl : apiUrl (endpoints.baseUrl e.source) e.segments = .ok url)
    (hrequest : e.request endpoints timeout url = .ok r) :
    e.request? endpoints timeout = some r := by
  unfold request?
  rw [hurl]
  change (e.request endpoints timeout url).toOption = some r
  rw [hrequest]
  rfl

theorem baseUrl_congr (e : ReleaseEntry) (hroots : others.baseUrls = endpoints.baseUrls) :
    others.baseUrl e.source = endpoints.baseUrl e.source := by
  unfold Endpoints.baseUrl
  rw [hroots]

/-- Below a root without credentials a request has the headers of its entry only. -/
theorem headers_of_request? (hroots : endpoints.HaveNoCredentials)
    (h : e.request? endpoints timeout = some r) : r.headers = e.headers endpoints := by
  obtain ⟨url, hurl, hrequest⟩ := request?_eq_some h
  obtain ⟨plain, hplain, rfl⟩ := request_eq_ok hrequest
  obtain ⟨root, hroot, husername, hpassword⟩ := credentials_of_apiUrl hurl
  obtain ⟨hnoUsername, hnoPassword⟩ := hroots e.source root hroot
  have hnone := Request.headers_of_ofUrl hplain (husername.trans hnoUsername)
    (hpassword.trans hnoPassword)
  dsimp only
  rw [hnone, List.nil_append]

/-- Tokens change the headers of a request and nothing else of it. -/
theorem request?_alike (hroots : others.baseUrls = endpoints.baseUrls)
    (h : e.request? endpoints timeout = some r) (h' : e.request? others timeout = some r') :
    r' = { r with headers := r'.headers } ∧
      (e.headers others = e.headers endpoints → r' = r) := by
  obtain ⟨url, hurl, hrequest⟩ := request?_eq_some h
  obtain ⟨url', hurl', hrequest'⟩ := request?_eq_some h'
  rw [e.baseUrl_congr hroots] at hurl'
  obtain rfl : url = url' := Except.ok.inj (hurl.symm.trans hurl')
  obtain ⟨plain, hplain, rfl⟩ := request_eq_ok hrequest
  obtain ⟨plain', hplain', rfl⟩ := request_eq_ok hrequest'
  obtain rfl : plain = plain' := Except.ok.inj (hplain.symm.trans hplain')
  exact ⟨rfl, fun hheaders => by rw [hheaders]⟩

/-! ## Lookups -/

/-- What the answer to a request for an entry means. -/
def read (e : ReleaseEntry) (url requested : Url) (answer : Except SendError (Nat × String)) :
    Except FetchError Release :=
  match e.source with
  | .github | .codeberg =>
    (readAnswer requested (readRecord? githubFields readGithub?) answer).map
      fun (tag, page, date) => e.release tag page date
  | .gitlab =>
    (readAnswer requested (readRecord? gitlabFields readGitlab?) answer).map
      fun (tag, page, date) => e.release tag page date
  | .dockerhub =>
    let image := Image.ofRepository e.repository
    if image.tag.isSome then
      (readAnswer requested (readRecord? tagFields readTag?) answer).map
        fun (tag, date) => image.release tag date
    else (readAnswer requested (readRecord? imageFields readTags?) answer).bind (newest image url)

variable {network network' : Network}

/-- A lookup sends one request, if it can be made. -/
theorem lookup_eq (e : ReleaseEntry) (endpoints : Endpoints) (network : Network)
    (timeout : Duration) : e.lookup endpoints network timeout =
      match apiUrl (endpoints.baseUrl e.source) e.segments with
      | .error error => .offline (.error error)
      | .ok url =>
        match e.request endpoints timeout url with
        | .error error => .offline (.error (.ofBuild error))
        | .ok r => (r.fetch network).map (e.read url r.url) := by
  unfold lookup
  cases apiUrl (endpoints.baseUrl e.source) e.segments with
  | error => rfl
  | ok url =>
    unfold read
    dsimp only
    cases e.source with
    | github | codeberg | gitlab => cases e.request endpoints timeout url <;> rfl
    | dockerhub =>
      dsimp only
      split <;> cases e.request endpoints timeout url <;> rfl

theorem send_sent (h : (r.send network).sent = some r') : r' = r := by
  unfold Request.send at h
  split at h
  · split at h <;> cases h <;> rfl
  · cases h

theorem whole_sent (a : Attempt (Except SendError Response)) (sent : Option Request) :
    ({ a with sent }).whole = { a.whole with sent } := by
  obtain ⟨result, _, _, _⟩ := a
  cases result <;> rfl

/-- Fetching sends what sending does. -/
theorem fetch_sent : (r.fetch network).sent = (r.send network).sent := by
  unfold Request.fetch Attempt.whole
  split <;> rfl

/-- What comes of sending a request depends on its headers by the answer only. -/
theorem send_alike (hurl : r'.url = r.url) (htimeout : r'.timeout = r.timeout)
    (hanswer : network' r' = network r) : r'.send network' =
      { r.send network with sent := (r.send network).sent.map fun _ => r' } := by
  unfold Request.send
  rw [hurl, htimeout, hanswer]
  split
  · cases network r <;> rfl
  · rfl

/-- What comes of fetching by a request depends on its headers by the answer only. -/
theorem fetch_alike (hurl : r'.url = r.url) (htimeout : r'.timeout = r.timeout)
    (hanswer : network' r' = network r) : r'.fetch network' =
      { r.fetch network with sent := (r.fetch network).sent.map fun _ => r' } := by
  rw [fetch_sent]
  unfold Request.fetch
  rw [send_alike hurl htimeout hanswer, whole_sent]

/-- What a lookup sends is the request for the entry. -/
theorem request?_of_lookup_sent (h : (e.lookup endpoints network timeout).sent = some r) :
    e.request? endpoints timeout = some r := by
  rw [lookup_eq] at h
  cases hurl : apiUrl (endpoints.baseUrl e.source) e.segments with
  | error =>
    rw [hurl] at h
    cases h
  | ok url =>
    simp only [hurl] at h
    cases hrequest : e.request endpoints timeout url with
    | error =>
      rw [hrequest] at h
      cases h
    | ok plain =>
      rw [hrequest] at h
      obtain rfl := send_sent (fetch_sent.symm.trans h)
      exact request?_of_request hurl hrequest

/-- With other tokens and the same answer a lookup differs in its request only. -/
theorem lookup_alike (hroots : others.baseUrls = endpoints.baseUrls)
    (hvalid : endpoints.HaveValidTokens) (hothers : others.HaveValidTokens)
    (hanswer : ∀ r r', e.request? endpoints timeout = some r →
      e.request? others timeout = some r' → network' r' = network r) :
    ∃ sent, e.lookup others network' timeout =
        { e.lookup endpoints network timeout with sent } ∧
      sent.isSome = (e.lookup endpoints network timeout).sent.isSome := by
  have hroot := e.baseUrl_congr hroots
  rw [lookup_eq, lookup_eq, hroot]
  cases hurl : apiUrl (endpoints.baseUrl e.source) e.segments with
  | error => exact ⟨none, rfl, rfl⟩
  | ok url =>
    dsimp only
    cases hplain : Request.ofUrl .get url timeout with
    | error fault =>
      have hrequest (endpoints : Endpoints) :
          e.request endpoints timeout url = .error fault := by
        unfold request
        rw [hplain]
        rfl
      rw [hrequest, hrequest]
      exact ⟨none, rfl, rfl⟩
    | ok plain =>
      obtain ⟨r, hr⟩ := e.exists_addHeaders hvalid plain
      obtain ⟨r', hr'⟩ := e.exists_addHeaders hothers plain
      have hrequest : e.request endpoints timeout url = .ok r := by
        unfold request
        rw [hplain]
        exact hr
      have hrequest' : e.request others timeout url = .ok r' := by
        unfold request
        rw [hplain]
        exact hr'
      have hsame := hanswer r r' (request?_of_request hurl hrequest)
        (request?_of_request (hroot ▸ hurl) hrequest')
      obtain ⟨hrurl, hrtimeout⟩ : r'.url = r.url ∧ r'.timeout = r.timeout := by
        rw [addHeaders_eq_ok hr, addHeaders_eq_ok hr']
        exact ⟨rfl, rfl⟩
      rw [hrequest, hrequest']
      dsimp only
      rw [fetch_alike hrurl hrtimeout hsame, hrurl]
      exact ⟨_, rfl, Option.isSome_map⟩

end ReleaseEntry

end DashboardRefresh
