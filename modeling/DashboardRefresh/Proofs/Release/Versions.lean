import DashboardRefresh.Proofs.Release.Tokens
import DashboardRefresh.Proofs.Text.SmallLetters
import DashboardRefresh.Proofs.Widget.ReleaseUpdates

/-!
# Versions

The version of a tag has no blanks at its ends, is in lower case and begins with a `v`, and such a
text is its own version. Which blanks are around the tag and which of its ASCII letters are capitals
does not matter. A list of releases shows such versions for all sources but Docker Hub, where it
shows the tags as they were answered.
-/

namespace DashboardRefresh

/-! ## Tags -/

/-- Characters in lower case without blanks at their ends, the first of which is a `v`. -/
structure IsVersionChars (cs : List Char) : Prop where
  head?_eq : cs.head? = some 'v'
  isTrimmed : Text.IsTrimmed cs
  isSmall : ∀ c ∈ cs, Text.IsSmall c

section Tags

variable {cs tag : List Char}

theorem IsVersionChars.cons (hne : cs ≠ []) (htrimmed : Text.IsTrimmed cs)
    (hsmall : ∀ c ∈ cs, Text.IsSmall c) : IsVersionChars ('v' :: cs) where
  head?_eq := rfl
  isTrimmed :=
    { head? := by simp; decide
      getLast? := by
        rw [List.getLast?_cons_of_ne_nil hne]
        exact htrimmed.getLast? }
  isSmall := List.forall_mem_cons.2 ⟨⟨by decide, by decide, by decide +kernel⟩, hsmall⟩

/-- The version of a tag that is more than blanks is the lower case of the tag, with a `v` in front
unless there is one already. -/
theorem versionChars_isVersionChars (tag : List Char) :
    (Text.trimChars tag = [] ∧ versionChars tag = []) ∨
      (Text.trimChars tag ≠ [] ∧ IsVersionChars (versionChars tag)) := by
  have htrimmed := (Text.isTrimmed_trimChars tag).lowerChars
  have hsmall : ∀ c ∈ Text.lowerChars (Text.trimChars tag), Text.IsSmall c :=
    Text.isSmall_of_mem_lowerFrom
  have hnil : Text.lowerChars (Text.trimChars tag) = [] ↔ Text.trimChars tag = [] :=
    Text.lowerFrom_eq_nil_iff
  unfold versionChars
  rw [Ne, ← hnil]
  generalize Text.lowerChars (Text.trimChars tag) = lower at htrimmed hsmall
  split
  · exact .inl ⟨rfl, rfl⟩
  · exact .inr ⟨List.cons_ne_nil _ _, rfl, htrimmed, hsmall⟩
  · rename_i hne _
    exact .inr ⟨hne, .cons hne htrimmed hsmall⟩

theorem IsVersionChars.versionChars_eq (h : IsVersionChars cs) : versionChars cs = cs := by
  obtain ⟨rest, rfl⟩ : ∃ rest, cs = 'v' :: rest := by
    simpa [List.head?_eq_some_iff] using h.head?_eq
  unfold versionChars
  rw [h.isTrimmed.trimChars_eq, Text.lowerChars_eq_self h.isSmall]
  rfl

theorem versionChars_idempotent (tag : List Char) :
    versionChars (versionChars tag) = versionChars tag := by
  rcases versionChars_isVersionChars tag with ⟨_, hnil⟩ | ⟨_, hversion⟩
  · rw [hnil]
    rfl
  · exact hversion.versionChars_eq

theorem versionChars_eq_nil_iff : versionChars tag = [] ↔ ∀ c ∈ tag, Text.isBlank c := by
  rw [← Text.trimChars_eq_nil_iff]
  rcases versionChars_isVersionChars tag with ⟨htrim, hnil⟩ | ⟨htrim, hversion⟩
  · exact iff_of_true hnil htrim
  · refine iff_of_false (fun hnil => ?_) htrim
    have hhead := hversion.head?_eq
    rw [hnil] at hhead
    cases hhead

/-- Blanks around a tag do not change its version. -/
theorem versionChars_between {lead trail : List Char} (hlead : ∀ b ∈ lead, Text.isBlank b)
    (htrail : ∀ b ∈ trail, Text.isBlank b) :
    versionChars (lead ++ tag ++ trail) = versionChars tag := by
  unfold versionChars
  rw [Text.trimChars_between hlead htrail]

theorem versionChars_map_toLower (tag : List Char) :
    versionChars (tag.map Char.toLower) = versionChars tag := by
  unfold versionChars
  rw [Text.trimChars_map_toLower, Text.lowerChars_map_toLower]

end Tags

/-- A text in lower case without blanks at its ends that begins with a `v`. -/
structure IsVersion (version : String) : Prop where
  startsWith : version.toList.head? = some 'v'
  isTrimmed : Text.trim version = version
  isLower : Text.lower version = version

theorem IsVersionChars.isVersion (h : IsVersionChars cs) : IsVersion (String.ofList cs) where
  startsWith := by rw [String.toList_ofList, h.head?_eq]
  isTrimmed := by rw [Text.trim, String.toList_ofList, h.isTrimmed.trimChars_eq]
  isLower := by rw [Text.lower, String.toList_ofList, Text.lowerChars_eq_self h.isSmall]

theorem versionOfTag_idempotent (tag : String) :
    versionOfTag (versionOfTag tag) = versionOfTag tag := by
  unfold versionOfTag
  rw [String.toList_ofList, versionChars_idempotent]

/-! ## Answers -/

theorem readAnswer_eq_ok {α : Type} {url : Url} {read : String → Option α}
    {answer : Except SendError (Nat × String)} {a : α} (h : readAnswer url read answer = .ok a) :
    ∃ body, answer = .ok (200, body) ∧ read body = some a := by
  unfold readAnswer at h
  split at h
  · cases h
  · rename_i status body
    split at h
    · cases h
    · rename_i hstatus
      split at h
      · rename_i a' hread
        cases h
        exact ⟨body, by rw [not_not.1 hstatus], hread⟩
      · cases h

theorem Request.fetch_eq_ok {r : Request} {network : Network} {status : Nat} {body : String}
    (h : (r.fetch network).result = .ok (status, body)) :
    ∃ bytes, network r = .response status bytes ∧ body = Text.ofMarked bytes := by
  unfold fetch send at h
  split at h
  · cases hanswer : network r with
    | response status' bytes =>
      rw [hanswer] at h
      cases h
      exact ⟨bytes, rfl, rfl⟩
    | brokenOff | stalls | closed | hangs | unreachable =>
      rw [hanswer] at h
      cases h
  · cases h

namespace ReleaseEntry

variable {e : ReleaseEntry} {endpoints : Endpoints} {release : Release}

/-- The tag that a document names as the latest release of an entry: at Docker Hub the tag that was
asked for, or the first of the list. -/
def tag? (e : ReleaseEntry) (text : String) : Option String :=
  match e.source with
  | .github | .codeberg => (readRecord? githubFields readGithub? text).map (·.1)
  | .gitlab => (readRecord? gitlabFields readGitlab? text).map (·.1)
  | .dockerhub =>
    if (Image.ofRepository e.repository).tag.isSome then
      (readRecord? tagFields readTag? text).map (·.1)
    else (readRecord? imageFields readTags? text).bind fun tags => tags.head?.map (·.1)

/-- A release of an entry shows a tag: as it is at Docker Hub, and by its version elsewhere. -/
structure ShowsTag (e : ReleaseEntry) (tag : String) (release : Release) : Prop where
  source_eq : release.source = e.source
  verbatim : e.source = .dockerhub → release.version = tag
  normalized : e.source ≠ .dockerhub → release.version = versionOfTag tag

theorem showsTag_release (hsource : e.source ≠ .dockerhub) (tag page : String)
    (date : Option Timestamp) : e.ShowsTag tag (e.release tag page date) where
  source_eq := rfl
  verbatim h := absurd h hsource
  normalized _ := rfl

theorem showsTag_image (hsource : e.source = .dockerhub) (image : Image) (tag : String)
    (date : Option Timestamp) : e.ShowsTag tag (image.release tag date) where
  source_eq := by
    unfold Image.release
    split <;> exact hsource.symm
  verbatim _ := by
    unfold Image.release
    split <;> rfl
  normalized h := absurd hsource h

/-- What is read from an answer shows the tag that its document names. -/
theorem read_eq_ok {url requested : Url} {answer : Except SendError (Nat × String)}
    (h : e.read url requested answer = .ok release) :
    ∃ body tag, answer = .ok (200, body) ∧ e.tag? body = some tag ∧ e.ShowsTag tag release := by
  unfold read at h
  unfold tag?
  cases hsource : e.source with
  | github | codeberg | gitlab =>
    simp only [hsource] at h
    obtain ⟨⟨tag, page, date⟩, hread, rfl⟩ := exists_of_map_eq_ok h
    obtain ⟨body, hanswer, hbody⟩ := readAnswer_eq_ok hread
    refine ⟨body, tag, hanswer, by simp [hbody], showsTag_release ?_ tag page date⟩
    rw [hsource]
    decide
  | dockerhub =>
    simp only [hsource] at h
    split at h
    · rename_i hpinned
      obtain ⟨⟨tag, date⟩, hread, rfl⟩ := exists_of_map_eq_ok h
      obtain ⟨body, hanswer, hbody⟩ := readAnswer_eq_ok hread
      exact ⟨body, tag, hanswer, by simp [hpinned, hbody], showsTag_image hsource _ tag date⟩
    · rename_i hpinned
      obtain ⟨tags, hread, hnewest⟩ := exists_of_bind_eq_ok h
      obtain ⟨body, hanswer, hbody⟩ := readAnswer_eq_ok hread
      unfold newest at hnewest
      split at hnewest
      · cases hnewest
      · rename_i tag date others
        cases hnewest
        exact ⟨body, tag, hanswer, by simp [hpinned, hbody], showsTag_image hsource _ tag date⟩

/-- In the surroundings the request for an entry is answered by a document that names a tag. -/
def IsTold (e : ReleaseEntry) (endpoints : Endpoints) (s : Surroundings) (tag : String) : Prop :=
  ∃ r bytes, e.request? endpoints s.requestTimeout = some r ∧
    s.network r = .response 200 bytes ∧ e.tag? (Text.ofMarked bytes) = some tag

theorem isTold_of_lookup {s : Surroundings}
    (h : (e.lookup endpoints s.network s.requestTimeout).result = .ok release) :
    ∃ tag, e.IsTold endpoints s tag ∧ e.ShowsTag tag release := by
  rw [lookup_eq] at h
  cases hurl : apiUrl (endpoints.baseUrl e.source) e.segments with
  | error =>
    rw [hurl] at h
    cases h
  | ok url =>
    simp only [hurl] at h
    cases hrequest : e.request endpoints s.requestTimeout url with
    | error =>
      rw [hrequest] at h
      cases h
    | ok r =>
      simp only [hrequest, Attempt.map] at h
      obtain ⟨body, tag, hanswer, htag, hshows⟩ := read_eq_ok h
      obtain ⟨bytes, hnetwork, rfl⟩ := Request.fetch_eq_ok hanswer
      exact ⟨tag, ⟨r, bytes, request?_of_request hurl hrequest, hnetwork, htag⟩, hshows⟩

end ReleaseEntry

/-! ## Lists -/

namespace ReleaseList

variable {L : ReleaseList} {s : Surroundings}

theorem mem_of_mem_select {limit : Nat} {releases : List Release} {r : Release}
    (h : r ∈ select limit releases) : r ∈ releases :=
  List.mem_mergeSort.1 (List.mem_of_mem_take h)

/-- In the surroundings the source of an entry of the list names the tag that the release shows. -/
def IsTold (L : ReleaseList) (s : Surroundings) (r : Release) : Prop :=
  ∃ e ∈ L.entries, ∃ tag, e.IsTold L.endpoints s tag ∧ e.ShowsTag tag r

/-- All that a batch keeps that was not interrupted was told. -/
theorem isTold_of_mem_store
    (hnone : (L.lookUp s.network s.requestTimeout s.cancellation).batch.interrupted = none)
    {r : Release} (hr : r ∈ (L.store
      (L.lookUp s.network s.requestTimeout s.cancellation).batch).releases) : L.IsTold s r := by
  have hkept := mem_of_mem_select hr
  unfold lookUp at hkept hnone
  rw [runAttempts_kept hnone, List.mem_filterMap] at hkept
  obtain ⟨result, hresult, hok⟩ := hkept
  rw [List.map_map, List.mem_map] at hresult
  obtain ⟨e, he, rfl⟩ := hresult
  cases hlookup : (e.lookup L.endpoints s.network s.requestTimeout).result with
  | error =>
    rw [Function.comp_apply, hlookup] at hok
    cases hok
  | ok release =>
    rw [Function.comp_apply, hlookup] at hok
    obtain rfl := Option.some.inj hok
    obtain ⟨tag, htold, hshows⟩ := ReleaseEntry.isTold_of_lookup hlookup
    exact ⟨e, he, tag, htold, hshows⟩

end ReleaseList

namespace Leaf

variable {l built : Leaf} {L : ReleaseList} {s : Surroundings} {allowed : Surroundings → Prop}

/-- A release that a list shows after an update was there before, or was told now. -/
theorem isTold_of_update (hcontent : l.content = .releases L) :
    ∃ releases, (l.update s).leaf.content = .releases { L with releases } ∧
      ∀ r ∈ releases, r ∈ L.releases ∨ L.IsTold s r := by
  rw [update_of_releases hcontent]
  unfold finish
  split
  · exact ⟨L.releases, hcontent, fun r hr => .inl hr⟩
  · dsimp only
    split
    · rename_i hstores
      have hkeeps := (Bool.and_eq_true_iff.1 hstores).1
      exact ⟨_, rfl, fun r hr => .inr
        (ReleaseList.isTold_of_mem_store (Batch.keepsData_classify.1 hkeeps).1 hr)⟩
    · exact ⟨L.releases, hcontent, fun r hr => .inl hr⟩

theorem exists_releases_of_kind (h : l.kind = .releases) : ∃ L, l.content = .releases L := by
  unfold kind at h
  cases hcontent : l.content with
  | releases L => exact ⟨L, rfl⟩
  | html | calendar | monitor | customApi =>
    rw [hcontent] at h
    cases h

/-- All releases that a list shows were told by some update since it was built. -/
theorem isTold_of_reaches (hbuilt : built.IsBuilt) (h : built.Reaches allowed l) :
    l.WellFormed ∧ ∀ L, l.content = .releases L →
      ∀ r ∈ L.releases, ∃ s, allowed s ∧ L.IsTold s r := by
  induction h with
  | refl =>
    refine ⟨hbuilt.wellFormed, fun L hcontent r hr => ?_⟩
    obtain ⟨id, common, config, hconfig, _⟩ := hbuilt
    obtain ⟨_, hbare⟩ := Content.of_ofConfig hconfig
    rw [hcontent] at hbare
    rw [show L.releases = [] from hbare] at hr
    cases hr
  | @tail l _ _ hstep ih =>
    obtain ⟨s, hs, rfl⟩ := hstep
    obtain ⟨hwell, htold⟩ := ih
    refine ⟨hwell.update s, fun L hcontent r hr => ?_⟩
    have hkind : l.kind = .releases := by
      rw [← hwell.kind_update s, kind, hcontent]
      rfl
    obtain ⟨before, hbefore⟩ := exists_releases_of_kind hkind
    obtain ⟨releases, hafter, hnew⟩ := isTold_of_update (s := s) hbefore
    obtain rfl := Content.releases.inj (hafter.symm.trans hcontent)
    rcases hnew r hr with hold | hnow
    · exact htold before hbefore r hold
    · exact ⟨s, hs, hnow⟩

end Leaf

/-- The version of a tag is its own version. It is empty exactly if the tag is only blanks, and
begins otherwise with a `v`, has no blanks at its ends and is in lower case. Blanks around the tag
and capitals among its ASCII letters do not change it. Every release that a list shows was told by
the answer to a request for one of its entries, and shows the tag that the answer names: as it is
for an image at Docker Hub, and by its version, which is its own, for all other sources. -/
theorem versions_are_normal :
    (∀ tag, versionOfTag (versionOfTag tag) = versionOfTag tag ∧
      (versionOfTag tag = "" ↔ Text.isBlankText tag) ∧
      (versionOfTag tag ≠ "" → IsVersion (versionOfTag tag))) ∧
    (∀ tag lead trail lead' trail', Text.isBlankText lead → Text.isBlankText trail →
      Text.isBlankText lead' → Text.isBlankText trail' →
      versionOfTag (lead ++ tag ++ trail) = versionOfTag (lead' ++ tag ++ trail')) ∧
    (∀ tag tag' : String, tag.map Char.toLower = tag'.map Char.toLower →
      versionOfTag tag = versionOfTag tag') ∧
    ∀ (allowed : Surroundings → Prop) (built l : Leaf) (list : ReleaseList), built.IsBuilt →
      built.Reaches allowed l → l.content = .releases list → ∀ r ∈ list.releases,
        ∃ s, allowed s ∧ ∃ e ∈ list.entries, ∃ tag, e.IsTold list.endpoints s tag ∧
          r.source = e.source ∧ (r.source = .dockerhub → r.version = tag) ∧
          (r.source ≠ .dockerhub →
            r.version = versionOfTag tag ∧ versionOfTag r.version = r.version) := by
  have hblank {text : String} (h : Text.isBlankText text) : ∀ b ∈ text.toList, Text.isBlank b :=
    List.all_eq_true.1 h
  refine ⟨fun tag => ⟨versionOfTag_idempotent tag, ?_, fun hne => ?_⟩, ?_, ?_, ?_⟩
  · unfold versionOfTag Text.isBlankText
    rw [String.ofList_eq_empty_iff, versionChars_eq_nil_iff, List.all_eq_true]
  · rcases versionChars_isVersionChars tag.toList with ⟨_, hnil⟩ | ⟨_, hversion⟩
    · exact absurd (congrArg String.ofList hnil) hne
    · exact hversion.isVersion
  · intro tag lead trail lead' trail' hlead htrail hlead' htrail'
    unfold versionOfTag
    simp only [String.toList_append]
    rw [versionChars_between (hblank hlead) (hblank htrail),
      versionChars_between (hblank hlead') (hblank htrail')]
  · intro tag tag' hsame
    have hchars := congrArg String.toList hsame
    rw [String.toList_map, String.toList_map] at hchars
    unfold versionOfTag
    rw [← versionChars_map_toLower, hchars, versionChars_map_toLower]
  · intro allowed built l list hbuilt hreaches hcontent r hr
    obtain ⟨s, hs, e, he, tag, htold, hshows⟩ :=
      (Leaf.isTold_of_reaches hbuilt hreaches).2 list hcontent r hr
    have hsource := hshows.source_eq
    refine ⟨s, hs, e, he, tag, htold, hsource, fun hdocker => ?_, fun hother => ?_⟩
    · exact hshows.verbatim (hsource ▸ hdocker)
    · have hversion := hshows.normalized (hsource ▸ hother)
      exact ⟨hversion, by rw [hversion, versionOfTag_idempotent]⟩

example : versionOfTag " B-ΑΣ\n" = "vb-ας" := by decide +kernel

/-- A tool and its image at a mirror. -/
def toolAndImage : ReleaseList where
  entries := [⟨.github, "a/tool"⟩, ⟨.dockerhub, "tool"⟩]
  endpoints := ⟨[(.github, "http://a.test"), (.dockerhub, "http://a.test")], none, none⟩
  limit := 10
  releases := []

/-- The answer with a text of ASCII. -/
def asciiAnswer (text : String) : Answer :=
  .response 200 (text.toList.map fun c => c.toNat.toUInt8)

/-- What an update meets when the mirror names a tag for each of them. -/
def tagged : Surroundings where
  clock := .setTo .epoch
  offset := 0
  network := .ofTable
    [("http://a.test/repos/a/tool/releases/latest",
        asciiAnswer "\x7b\"tag_name\": \" 1.2-RC\", \"html_url\": \"u\"\x7d"),
      ("http://a.test/v2/namespaces/library/repositories/tool/tags",
        asciiAnswer "\x7b\"results\": [\x7b\"name\": \"Edge \"\x7d]\x7d")]
  requestTimeout := .ofSeconds 10
  cancellation := .never
  answerCounts _ := true

namespace Leaf

/-- A list of the tool and its image that has been built and not been updated yet. -/
def newToolAndImage : Leaf :=
  ⟨.ofConfig 1 .releases ⟨none, none, false, none, none⟩, .releases toolAndImage⟩

theorem newToolAndImage_isBuilt : newToolAndImage.IsBuilt := by
  let config : ReleasesConfig :=
    ⟨["a/tool", "dockerhub:tool"], none, none,
      [("github", "http://a.test"), ("dockerhub", "http://a.test")], none⟩
  exact ⟨1, ⟨none, none, false, none, none⟩, .releases config, rfl, rfl⟩

theorem found_toolAndImage :
    (toolAndImage.found tagged).map (·.version) = ["v1.2-rc", "Edge "] := by
  decide +kernel

theorem newToolAndImage_update_content :
    (newToolAndImage.update tagged).leaf.content = .releases
      { toolAndImage with releases := ReleaseList.select 10 (toolAndImage.found tagged) } := by
  have hlength := toolAndImage.length_found_add_failedCount tagged
  rw [← List.length_map (·.version), found_toolAndImage] at hlength
  have hnone : toolAndImage.failedCount tagged = 0 := by simpa [toolAndImage] using hlength
  have hreachable : newToolAndImage.IsReachable := ⟨_, newToolAndImage_isBuilt, .refl⟩
  have hread : tagged.clock.read = .ok .epoch := rfl
  obtain ⟨_, hcontent⟩ := update_leaf_of_releases (l := newToolAndImage) rfl (by decide) rfl hread
    fun hsome => hasRoom_of_releases hreachable rfl hsome fun hpos => absurd hnone hpos.ne'
  rw [hcontent, if_neg]
  · rfl
  · rw [hnone]
    decide

end Leaf

/-- The tool is shown by a version, the image by its tag. -/
theorem versions_are_normal_toolAndImage :
    versionOfTag (" " ++ "1.2-RC" ++ "") = versionOfTag ("" ++ "1.2-RC" ++ "\n") ∧
      versionOfTag "1.2-RC" = versionOfTag "1.2-rc" ∧
      ∃ list, (Leaf.newToolAndImage.update tagged).leaf.content = .releases list ∧
        (list.releases.map (·.version)).Perm ["v1.2-rc", "Edge "] ∧
        ∀ r ∈ list.releases, ∃ e ∈ list.entries, ∃ tag, e.IsTold list.endpoints tagged tag ∧
          (r.source = .dockerhub → r.version = tag) ∧
          (r.source ≠ .dockerhub →
            r.version = versionOfTag tag ∧ versionOfTag r.version = r.version) := by
  have hcontent := Leaf.newToolAndImage_update_content
  have hperm : (ReleaseList.select 10 (toolAndImage.found tagged)).Perm
      (toolAndImage.found tagged) := by
    have hlength : (toolAndImage.found tagged).length = 2 := by
      rw [← List.length_map (·.version), Leaf.found_toolAndImage]
      rfl
    rw [ReleaseList.select, List.take_of_length_le (by rw [List.length_mergeSort, hlength]; decide)]
    exact List.mergeSort_perm _ _
  have hcapitals : "1.2-RC".map Char.toLower = "1.2-rc".map Char.toLower := by
    rw [← String.toList_inj, String.toList_map, String.toList_map]
    decide
  obtain ⟨_, hblanks, hcase, hshown⟩ := versions_are_normal
  refine ⟨hblanks _ _ _ _ _ (by decide) (by decide) (by decide) (by decide),
    hcase _ _ hcapitals, _, hcontent, ?_, fun r hr => ?_⟩
  · rw [← Leaf.found_toolAndImage]
    exact hperm.map _
  · have hreaches : Leaf.newToolAndImage.Reaches (· = tagged)
        (Leaf.newToolAndImage.update tagged).leaf := .single ⟨tagged, rfl, rfl⟩
    obtain ⟨s, hs, e, he, tag, htold, _, hverbatim, hnormal⟩ :=
      hshown _ _ _ _ Leaf.newToolAndImage_isBuilt hreaches hcontent r hr
    rw [hs] at htold
    exact ⟨e, he, tag, htold, hverbatim, hnormal⟩

end DashboardRefresh
