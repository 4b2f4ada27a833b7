import DashboardRefresh.Proofs.Release.ApiUrls
import DashboardRefresh.Proofs.Release.EntryGrammar
import DashboardRefresh.Proofs.Release.Requests
import DashboardRefresh.Proofs.Url.NamedSegments

/-!
# URLs of repositories

The request for a repository at GitHub or Codeberg names its owner and its name by two pieces of the
path exactly if both can be appended as segments. An entry may be read whose owner or name cannot:
a dot segment, or a text with tabs or line breaks. Where no entry is such a one, different
repositories are asked for at different URLs.
-/

namespace DashboardRefresh

/-! ## Requested URLs -/

/-- The URL as it is requested: a user name and a password have gone to a header. -/
def Url.requested (u : Url) : Url :=
  if (Request.credentialsOf? u).isSome then { u with username := "", password := none } else u

namespace Url

variable {u : Url}

theorem requested_host (u : Url) : u.requested.host = u.host := by
  unfold requested
  split <;> rfl

/-- Where the user name and the password go does not depend on the path. -/
theorem requested_with_path (u : Url) (path : UrlPath) :
    { u with path := path }.requested = { u.requested with path := path } := by
  have hsame : Request.credentialsOf? { u with path := path } = Request.credentialsOf? u := rfl
  unfold requested
  rw [hsame]
  split <;> rfl

end Url

namespace Request

variable {method : Method} {url : Url} {timeout : Duration} {r : Request}

theorem url_of_ofUrl (h : ofUrl method url timeout = .ok r) : r.url = url.requested := by
  unfold ofUrl at h
  unfold Url.requested
  split at h
  · cases h
  · split at h <;> rename_i hcredentials <;> cases h <;> rw [hcredentials] <;> rfl

theorem exists_ofUrl (method : Method) (timeout : Duration) (hhost : url.hasHost) :
    ∃ r, ofUrl method url timeout = .ok r := by
  unfold ofUrl
  rw [hhost, if_neg (by decide)]
  split <;> exact ⟨_, rfl⟩

end Request

open Url

/-- The URL names an owner and a name, each by a piece of its own, behind `repos` and in front of
the latest release. -/
def Url.NamesRepository (u : Url) (owner name : String) : Prop :=
  ∃ front ownerPiece namePiece,
    u.path.pieces = front ++ ["repos", ownerPiece, namePiece, "releases", "latest"] ∧
      Percent.decodeText? ownerPiece.toList = some owner ∧
      Percent.decodeText? namePiece.toList = some name

namespace ReleaseEntry

variable {e : ReleaseEntry} {endpoints : Endpoints} {timeout : Duration} {base text : String}
  {owner name : String} {root url : Url} {r : Request}

theorem url_of_request? {path : UrlPath}
    (hurl : apiUrl (endpoints.baseUrl e.source) e.segments = .ok { root with path })
    (h : e.request? endpoints timeout = some r) : r.url = { root.requested with path } := by
  obtain ⟨_, hsame, hrequest⟩ := request?_eq_some h
  rw [hurl] at hsame
  cases hsame
  obtain ⟨plain, hplain, rfl⟩ := request_eq_ok hrequest
  rw [← requested_with_path]
  exact Request.url_of_ofUrl (r := plain) hplain

theorem exists_request? (timeout : Duration) (htokens : endpoints.HaveValidTokens)
    (hurl : apiUrl (endpoints.baseUrl e.source) e.segments = .ok url) (hhost : url.hasHost) :
    ∃ r, e.request? endpoints timeout = some r := by
  obtain ⟨plain, hplain⟩ := Request.exists_ofUrl .get timeout hhost
  obtain ⟨r, hr⟩ := e.exists_addHeaders htokens plain
  have hrequest : e.request endpoints timeout url = .ok r := by
    unfold request
    rw [hplain]
    exact hr
  exact ⟨r, request?_of_request hurl hrequest⟩

/-! ## Owners and names -/

/-- The entry is the repository of an owner, at GitHub or Codeberg. -/
structure IsOwned (e : ReleaseEntry) (owner name : String) : Prop where
  isPair : e.source = .github ∨ e.source = .codeberg
  isName_owner : IsName owner
  isName_name : IsName name
  repository : e.repository = owner ++ "/" ++ name

theorem exists_isOwned (hparse : parse text = .ok e)
    (hsource : e.source = .github ∨ e.source = .codeberg) :
    ∃ owner name, e.IsOwned owner name := by
  have htaken := (spells_of_parse_eq_ok hparse).path
  obtain ⟨source, repository⟩ := e
  cases htaken with
  | documented hpath =>
    cases hpath with
    | repository hpair howner hname => exact ⟨_, _, hpair, howner, hname, rfl⟩
    | project => exact absurd hsource (by simp)
    | image => exact absurd hsource (by simp)
  | segments => exact absurd hsource (by simp)

/-- What stands in front of the repositories in the API of a source. -/
def apiFront : ReleaseSource → List String
  | .codeberg => ["api", "v1"]
  | _ => []

theorem isWhole_apiFront (source : ReleaseSource) :
    ∀ s ∈ apiFront source ++ ["repos"], IsWhole s := by
  cases source <;> decide

namespace IsOwned

theorem ownerAndName_eq (h : e.IsOwned owner name) : e.ownerAndName = (owner, name) := by
  have hcut : Text.cut? '/' e.repository = some (owner, name) :=
    Text.cut?_eq_some_iff.2 ⟨by simp [h.repository], h.isName_owner.slash_not_mem⟩
  unfold ownerAndName
  rw [hcut]
  rfl

theorem segments_eq (h : e.IsOwned owner name) :
    e.segments = apiFront e.source ++ ["repos"] ++ [owner, name, "releases", "latest"] := by
  unfold segments
  rw [h.ownerAndName_eq]
  rcases h.isPair with hsource | hsource <;> rw [hsource] <;> rfl

theorem segments_ne_nil (h : e.IsOwned owner name) : e.segments ≠ [] := by
  rw [h.segments_eq]
  exact List.append_ne_nil_of_right_ne_nil _ (List.cons_ne_nil _ _)

/-- The URL of a repository comes of the root by pushing its owner and its name behind `repos`. -/
theorem exists_apiUrl (h : e.IsOwned owner name) (hroot : Url.parse base = .ok root)
    (hweb : IsWeb root.scheme) :
    ∃ before : List String, apiUrl base e.segments = .ok { root with
      path := .segments ([owner, name, "releases", "latest"].foldl (pushSegment root.scheme)
        (before ++ ["repos"])) } := by
  obtain ⟨path, hpath⟩ := (isHierarchical_of_parse hroot hweb).exists_segments
  have hrepos : [piece "repos"] = ["repos"] := by decide
  refine ⟨kept (popEmpty path) ++ (apiFront e.source).map piece, ?_⟩
  rw [apiUrl_eq hroot hpath, h.segments_eq, List.foldl_append,
    foldl_pushSegment hweb (List.append_ne_nil_of_right_ne_nil _ (List.cons_ne_nil _ _))
      (isWhole_apiFront e.source),
    List.map_append, List.append_assoc, List.map_singleton, hrepos]

theorem isWhole_segments (h : e.IsOwned owner name) (hwhole : IsWhole owner ∧ IsWhole name) :
    ∀ s ∈ e.segments, IsWhole s := by
  have hlatest : IsWhole "releases" ∧ IsWhole "latest" := by decide
  rw [h.segments_eq, List.forall_mem_append]
  exact ⟨isWhole_apiFront e.source, by simp [hwhole, hlatest]⟩

/-- The segments of a repository tell its owner and its name. -/
theorem repository_eq {e' : ReleaseEntry} {owner' name' : String} (h : e.IsOwned owner name)
    (h' : e'.IsOwned owner' name') (hsource : e'.source = e.source)
    (hsegments : e'.segments = e.segments) : e'.repository = e.repository := by
  rw [h.segments_eq, h'.segments_eq, hsource] at hsegments
  have hnames := List.append_cancel_left hsegments
  rw [List.cons_eq_cons, List.cons_eq_cons] at hnames
  obtain ⟨howner, hname, _⟩ := hnames
  rw [h.repository, h'.repository, howner, hname]

end IsOwned

/-! ## Named repositories -/

section

variable {scheme : String} {before : List String} {u : Url}

/-- What a path names is whole, if it was pushed onto it. -/
theorem isWhole_of_namesRepository (hweb : IsWeb scheme) (howner : owner ≠ "") (hname : name ≠ "")
    (hpath : u.path = .segments ([owner, name, "releases", "latest"].foldl (pushSegment scheme)
      (before ++ ["repos"])))
    (h : u.NamesRepository owner name) : IsWhole owner ∧ IsWhole name := by
  obtain ⟨front, ownerPiece, namePiece, hpieces, hdecodedOwner, hdecodedName⟩ := h
  have hplain : EndsPlainly (before ++ ["repos"]) :=
    endsPlainly_concat ⟨by decide, "repos", by decide, by decide⟩ before
  have hdecodedLatest : Percent.decodeText? "releases".toList = some "releases" ∧
      Percent.decodeText? "latest".toList = some "latest" := by decide
  have hdecoded : [ownerPiece, namePiece, "releases", "latest"].map
      (Percent.decodeText? ·.toList) = [owner, name, "releases", "latest"].map some := by
    simp only [List.map_cons, hdecodedOwner, hdecodedName, hdecodedLatest, List.map_nil]
  have hfront : front ++ ["repos", ownerPiece, namePiece, "releases", "latest"] =
      (front ++ ["repos"]) ++ [ownerPiece, namePiece, "releases", "latest"] := by
    simp
  have hne : ∀ s ∈ [owner, name, "releases", "latest"], s ≠ "" := by
    simp [howner, hname]
  rw [hpath, hfront] at hpieces
  have hwhole := isWhole_of_pieces hweb hplain hne hpieces hdecoded
  exact ⟨hwhole owner (by simp), hwhole name (by simp)⟩

/-- What is whole and was pushed onto a path is named by it. -/
theorem namesRepository_of_isWhole (hweb : IsWeb scheme) (howner : IsWhole owner)
    (hname : IsWhole name)
    (hpath : u.path = .segments ([owner, name, "releases", "latest"].foldl (pushSegment scheme)
      (before ++ ["repos"]))) :
    u.NamesRepository owner name := by
  have hlatest : IsWhole "releases" ∧ IsWhole "latest" := by decide
  have hlatestPieces : [piece "releases", piece "latest"] = ["releases", "latest"] := by decide
  have hwhole : ∀ s ∈ [owner, name, "releases", "latest"], IsWhole s := by
    simp [howner, hname, hlatest]
  have hslash : ∀ p ∈ ["repos"] ++ [owner, name, "releases", "latest"].map piece,
      '/' ∉ p.toList :=
    List.forall_mem_append.2 ⟨by decide, slash_not_mem_of_mem_map_piece⟩
  refine ⟨(UrlPath.segments before).pieces, piece owner, piece name, ?_,
    howner.decodeText?_piece, hname.decodeText?_piece⟩
  rw [hpath, foldl_pushSegment hweb (List.cons_ne_nil _ _) hwhole, kept_of_ne_empty (by decide),
    List.append_assoc, UrlPath.pieces_append _ hslash, ← hlatestPieces]
  rfl

end

/-- Requests of one source for whole segments at one URL are for the same segments. -/
theorem segments_eq_of_url_text {e' : ReleaseEntry} {r' : Request}
    (hroot : Url.parse (endpoints.baseUrl e.source) = .ok root) (hweb : IsWeb root.scheme)
    (hsource : e'.source = e.source) (hne : e.segments ≠ []) (hne' : e'.segments ≠ [])
    (hwhole : ∀ s ∈ e.segments, IsWhole s) (hwhole' : ∀ s ∈ e'.segments, IsWhole s)
    (hr : e.request? endpoints timeout = some r) (hr' : e'.request? endpoints timeout = some r')
    (htext : r'.url.text = r.url.text) : e'.segments = e.segments := by
  obtain ⟨front, _, _, _, hfront⟩ := exists_front hroot hweb
  have hurl := hfront e.segments hne hwhole
  have hurl' := hfront e'.segments hne' hwhole'
  rw [← hsource] at hurl'
  rw [url_of_request? hurl hr, url_of_request? hurl' hr'] at htext
  have hhost : root.requested.host ≠ none := by
    rw [requested_host]
    exact (isHierarchical_of_parse hroot hweb).host_ne_none
  exact eq_of_text_eq hhost hwhole hwhole' htext

/-- The request for a repository names its owner and its name exactly if both can be appended as
segments, and it can be made unless a token is no header. The requests for two such repositories of
one source have different URLs. -/
theorem request_namesRepository_iff (timeout : Duration) (hparse : parse text = .ok e)
    (hsource : e.source = .github ∨ e.source = .codeberg)
    (hroot : Url.parse (endpoints.baseUrl e.source) = .ok root) (hweb : IsWeb root.scheme) :
    ∃ owner name, e.IsOwned owner name ∧
      (endpoints.HaveValidTokens → ∃ r, e.request? endpoints timeout = some r) ∧
      ∀ r, e.request? endpoints timeout = some r →
        (r.url.NamesRepository owner name ↔ IsWhole owner ∧ IsWhole name) ∧
        ∀ (e' : ReleaseEntry) (owner' name' : String) (r' : Request),
          e'.IsOwned owner' name' → e'.source = e.source → e'.repository ≠ e.repository →
          IsWhole owner ∧ IsWhole name → IsWhole owner' ∧ IsWhole name' →
          e'.request? endpoints timeout = some r' → r'.url.text ≠ r.url.text := by
  obtain ⟨owner, name, howned⟩ := exists_isOwned hparse hsource
  obtain ⟨before, hurl⟩ := howned.exists_apiUrl hroot hweb
  have hhierarchical := isHierarchical_of_parse hroot hweb
  refine ⟨owner, name, howned,
    fun htokens => exists_request? timeout htokens hurl hhierarchical.hasHost, ?_⟩
  intro r hr
  have hrequested := url_of_request? hurl hr
  constructor
  · have hpath := congrArg Url.path hrequested
    exact ⟨isWhole_of_namesRepository hweb howned.isName_owner.ne_empty
      howned.isName_name.ne_empty hpath,
      fun hwhole => namesRepository_of_isWhole hweb hwhole.1 hwhole.2 hpath⟩
  · intro e' owner' name' r' howned' hsame hdiffer hwhole hwhole' hr' htext
    have hsegments := segments_eq_of_url_text hroot hweb hsame howned.segments_ne_nil
      howned'.segments_ne_nil (howned.isWhole_segments hwhole) (howned'.isWhole_segments hwhole')
      hr hr' htext
    exact hdiffer (howned.repository_eq howned' hsame hsegments)

/-- A name with a percent sign, an owner with a blank, and a root that ends in a slash. -/
theorem request_namesRepository_iff_blank :
    ∃ endpoints : Endpoints, ∃ root r,
      parse "codeberg:a b/50%" = .ok ⟨.codeberg, "a b/50%"⟩ ∧
      Url.parse (endpoints.baseUrl .codeberg) = .ok root ∧ IsWeb root.scheme ∧
      request? ⟨.codeberg, "a b/50%"⟩ endpoints (.ofSeconds 5) = some r ∧
      r.url.text = "http://forge.test:3000/git/api/v1/repos/a%20b/50%25/releases/latest" ∧
      r.url.NamesRepository "a b" "50%" := by
  have hparse : parse "codeberg:a b/50%" = .ok ⟨.codeberg, "a b/50%"⟩ := by decide
  have hroot : Url.parse (Endpoints.baseUrl ⟨[(.codeberg, "http://forge.test:3000/git/")], none,
      none⟩ .codeberg) = .ok
        ⟨"http", "", none, some "forge.test", some 3000, .segments ["git", ""], none, none⟩ := by
    decide
  have hweb : IsWeb "http" := by decide
  obtain ⟨owner, name, howned, hmade, hnamed⟩ :=
    request_namesRepository_iff (.ofSeconds 5) hparse (.inr rfl) hroot hweb
  obtain ⟨r, hr⟩ := hmade ⟨nofun, nofun⟩
  obtain ⟨rfl, rfl⟩ : owner = "a b" ∧ name = "50%" :=
    Prod.mk.inj (howned.ownerAndName_eq.symm.trans (by decide))
  have htext : (request? ⟨.codeberg, "a b/50%"⟩
      ⟨[(.codeberg, "http://forge.test:3000/git/")], none, none⟩ (.ofSeconds 5)).map (·.url.text) =
        some "http://forge.test:3000/git/api/v1/repos/a%20b/50%25/releases/latest" := by
    decide
  rw [hr] at htext
  exact ⟨_, _, r, hparse, hroot, hweb, hr, Option.some.inj htext, (hnamed r hr).1.2 (by decide)⟩

/-- Two repositories whose names are dot segments are read, but asked for at one URL, which names
neither. -/
theorem request_not_namesRepository_dots :
    ¬ ∀ (endpoints : Endpoints) (timeout : Duration) (text text' : String) (e e' : ReleaseEntry)
      (root : Url) (r r' : Request), parse text = .ok e → parse text' = .ok e' →
      e.source = .github ∨ e.source = .codeberg → e'.source = e.source →
      Url.parse (endpoints.baseUrl e.source) = .ok root → root.scheme = "http" →
      e.request? endpoints timeout = some r → e'.request? endpoints timeout = some r' →
      (e'.repository ≠ e.repository → r'.url.text ≠ r.url.text) ∧
        ∀ owner name, e.repository = owner ++ "/" ++ name → r.url.NamesRepository owner name := by
  intro hclaim
  have hroot : Url.parse (Endpoints.baseUrl ⟨[(.github, "http://a.test")], none, none⟩ .github) =
      .ok ⟨"http", "", none, some "a.test", none, .segments [""], none, none⟩ := by
    decide
  have htext : ∀ repository ∈ ["a/..", "a/."],
      (request? ⟨.github, repository⟩ ⟨[(.github, "http://a.test")], none, none⟩
        (.ofSeconds 5)).map (·.url.text) = some "http://a.test/repos/a/releases/latest" := by
    decide
  obtain ⟨r, hr, hrtext⟩ := Option.map_eq_some_iff.1 (htext "a/.." (by decide))
  obtain ⟨r', hr', hrtext'⟩ := Option.map_eq_some_iff.1 (htext "a/." (by decide))
  have hparse : parse "a/.." = .ok ⟨.github, "a/.."⟩ := by decide
  have hparse' : parse "a/." = .ok ⟨.github, "a/."⟩ := by decide
  obtain ⟨hdiffer, _⟩ := hclaim _ _ _ _ _ _ _ _ _ hparse hparse' (.inl rfl) rfl hroot rfl hr hr'
  exact hdiffer (by decide) (hrtext'.trans hrtext.symm)

end ReleaseEntry

end DashboardRefresh
