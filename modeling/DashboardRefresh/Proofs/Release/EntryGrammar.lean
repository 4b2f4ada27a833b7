import DashboardRefresh.Release.Lookup
import Mathlib.Data.List.Basic

/-!
# The grammar of repository entries

An entry is documented as `[source:]path`, where the paths of each source have a form of their own.
The statements here say that the texts which are read are the documented ones, but for Docker Hub:
there one or two segments are read, whatever colons they hold, and such a path is documented exactly
if the image that a lookup makes of it has no part that is empty or holds a separator.
-/

namespace DashboardRefresh

namespace ReleaseEntry

/-! ## Documented paths -/

/-- A segment of a path: it is not empty and holds no slash. -/
structure IsSegment (s : String) : Prop where
  ne_empty : s ≠ ""
  slash_not_mem : '/' ∉ s.toList

/-- A name in a path: a segment without a colon. -/
structure IsName (s : String) : Prop extends IsSegment s where
  colon_not_mem : ':' ∉ s.toList

/-- The text of an image without its namespace: `image[:tag]`. -/
def imageText (name : String) (tag : Option String) : String := name ++ tag.elim "" (":" ++ ·)

/-- The text of an image: `[namespace/]image[:tag]`. -/
def imagePath (space : Option String) (name : String) (tag : Option String) : String :=
  space.elim "" (· ++ "/") ++ imageText name tag

/-- The documented paths of each source. -/
inductive IsPath : ReleaseSource → String → Prop
  | repository {source : ReleaseSource} {owner name : String}
      (hsource : source = .github ∨ source = .codeberg) (howner : IsName owner)
      (hname : IsName name) :
      IsPath source (owner ++ "/" ++ name)
  | project {segments : List String} (htwo : 2 ≤ segments.length)
      (hsegments : ∀ s ∈ segments, IsSegment s) :
      IsPath .gitlab ("/".intercalate segments)
  | image {space tag : Option String} {name : String} (hspace : ∀ s ∈ space, IsName s)
      (hname : IsName name) (htag : ∀ t ∈ tag, IsName t) :
      IsPath .dockerhub (imagePath space name tag)

/-- The paths that are read: the documented ones, and at Docker Hub any one or two segments. -/
inductive IsTaken : ReleaseSource → String → Prop
  | documented {source : ReleaseSource} {path : String} (h : IsPath source path) :
      IsTaken source path
  | segments {segments : List String} (hcount : segments.length = 1 ∨ segments.length = 2)
      (hsegments : ∀ s ∈ segments, IsSegment s) :
      IsTaken .dockerhub ("/".intercalate segments)

/-- The text names an entry with a path of some form: with its source in front, or without one if
that is `github`. -/
inductive Spells (Path : ReleaseSource → String → Prop) : String → ReleaseEntry → Prop
  | named {source : ReleaseSource} {path : String} (h : Path source path) :
      Spells Path (source.name ++ ":" ++ path) ⟨source, path⟩
  | unnamed {path : String} (h : Path .github path) : Spells Path path ⟨.github, path⟩

theorem Spells.path {Path : ReleaseSource → String → Prop} {text : String} {e : ReleaseEntry}
    (h : Spells Path text e) : Path e.source e.repository := by
  cases h with
  | named h => exact h
  | unnamed h => exact h

theorem Spells.of_path {Path Path' : ReleaseSource → String → Prop} {text : String}
    {e : ReleaseEntry} (h : Spells Path text e) (hpath : Path' e.source e.repository) :
    Spells Path' text e := by
  cases h with
  | named => exact .named hpath
  | unnamed => exact .unnamed hpath

/-! ## Segments -/

/-- The pieces of a path between slashes. -/
def pathSegments (path : String) : List String :=
  (Text.splitChars '/' path.toList).map String.ofList

variable {source : ReleaseSource} {path text s : String} {segments : List String}
  {e : ReleaseEntry}

theorem intercalate_pathSegments (path : String) : "/".intercalate (pathSegments path) = path := by
  have hchars : (pathSegments path).map String.toList = path.toList.splitOn '/' := by
    unfold pathSegments
    rw [List.map_map, ← Text.splitChars_eq_splitOn]
    exact List.map_id'' (fun _ => String.toList_ofList) _
  apply String.toList_inj.1
  rw [String.toList_intercalate, hchars]
  exact List.intercalate_splitOn '/'

theorem pathSegments_intercalate (hne : segments ≠ []) (h : ∀ s ∈ segments, '/' ∉ s.toList) :
    pathSegments ("/".intercalate segments) = segments := by
  have hsplit : Text.splitChars '/' ("/".intercalate segments).toList =
      segments.map String.toList := by
    rw [Text.splitChars_eq_splitOn, String.toList_intercalate]
    apply List.splitOn_intercalate
    · rw [List.forall_mem_map]
      exact h
    · exact mt List.map_eq_nil_iff.1 hne
  unfold pathSegments
  rw [hsplit, List.map_map]
  exact List.map_id'' (fun _ => String.ofList_toList) _

theorem not_mem_of_mem_pathSegments (h : s ∈ pathSegments path) : '/' ∉ s.toList := by
  obtain ⟨piece, hpiece, rfl⟩ := List.mem_map.1 h
  rw [String.toList_ofList]
  exact Text.not_mem_of_mem_splitChars hpiece

theorem pathSegments_ne_nil (path : String) : pathSegments path ≠ [] := by
  unfold pathSegments
  rw [Text.splitChars_eq_splitOn]
  exact mt List.map_eq_nil_iff.1 (List.splitOn_ne_nil '/' path.toList)

theorem pathSegments_pair {a b : String} (ha : '/' ∉ a.toList) (hb : '/' ∉ b.toList) :
    pathSegments (a ++ "/" ++ b) = [a, b] :=
  pathSegments_intercalate (List.cons_ne_nil a [b]) (by simp [ha, hb])

theorem pathSegments_single {a : String} (ha : '/' ∉ a.toList) : pathSegments a = [a] :=
  pathSegments_intercalate (List.cons_ne_nil a []) (by simp [ha])

/-- The pieces of a path are segments unless one of them is empty. -/
theorem forall_isSegment_iff :
    (∀ s ∈ pathSegments path, IsSegment s) ↔ [] ∉ Text.splitChars '/' path.toList := by
  constructor
  · intro h hmem
    exact (h "" (List.mem_map_of_mem hmem)).ne_empty rfl
  · intro hempty s hs
    constructor
    · rintro rfl
      obtain ⟨piece, hpiece, heq⟩ := List.mem_map.1 hs
      rw [String.ofList_eq_empty_iff.1 heq] at hpiece
      exact hempty hpiece
    · exact not_mem_of_mem_pathSegments hs

/-- A path is accepted by its segments, none of them empty, and by its colons. -/
theorem accepts_iff : accepts source path.toList ↔
    (∀ s ∈ pathSegments path, IsSegment s) ∧
      match source with
      | .github | .codeberg => (pathSegments path).length = 2 ∧ ':' ∉ path.toList
      | .gitlab => 2 ≤ (pathSegments path).length
      | .dockerhub => (pathSegments path).length ≤ 2 := by
  have hlength : (pathSegments path).length = (Text.splitChars '/' path.toList).length :=
    List.length_map _
  unfold accepts
  rw [forall_isSegment_iff, hlength]
  cases source <;> simp

/-! ## Images -/

section

variable {space tag : Option String} {name : String}

theorem imagePath_none (name : String) (tag : Option String) :
    imagePath none name tag = imageText name tag := String.empty_append

theorem isSegment_imageText (hname : IsName name) (htag : ∀ t ∈ tag, IsName t) :
    IsSegment (imageText name tag) := by
  constructor
  · intro hempty
    exact hname.ne_empty (String.append_eq_empty_iff.1 hempty).1
  · unfold imageText
    cases tag with
    | none => simpa using hname.slash_not_mem
    | some t => simp [hname.slash_not_mem, (htag t rfl).slash_not_mem]

theorem pathSegments_imagePath (hspace : ∀ s ∈ space, IsName s) (hname : IsName name)
    (htag : ∀ t ∈ tag, IsName t) :
    pathSegments (imagePath space name tag) = space.toList ++ [imageText name tag] := by
  have hslash := (isSegment_imageText hname htag).slash_not_mem
  cases space with
  | none =>
    rw [imagePath_none]
    exact pathSegments_single hslash
  | some s => exact pathSegments_pair (hspace s rfl).slash_not_mem hslash

/-- The image of a namespace that a text without one is. -/
def imageIn (space text : String) : Image :=
  match Text.cut? ':' text with
  | some (name, tag) => ⟨space, name, some tag⟩
  | none => ⟨space, text, none⟩

theorem ofRepository_of_cut {repository library text : String}
    (h : Text.cut? '/' repository = some (library, text)) :
    Image.ofRepository repository = imageIn library text := by
  unfold Image.ofRepository
  rw [h]
  rfl

theorem ofRepository_of_no_cut {repository : String} (h : Text.cut? '/' repository = none) :
    Image.ofRepository repository = imageIn "library" repository := by
  unfold Image.ofRepository
  rw [h]
  rfl

theorem imageIn_imageText (library : String) (hname : IsName name) :
    imageIn library (imageText name tag) = ⟨library, name, tag⟩ := by
  have hcolon := hname.colon_not_mem
  unfold imageIn
  cases tag with
  | none =>
    have hcut : Text.cut? ':' (imageText name none) = none := by
      apply Text.cut?_eq_none_iff.2
      simpa [imageText] using hcolon
    rw [hcut]
    exact congrArg (Image.mk library · none) String.append_empty
  | some t =>
    have hcut : Text.cut? ':' (imageText name (some t)) = some (name, t) :=
      Text.cut?_eq_some_iff.2 ⟨by simp [imageText], hcolon⟩
    rw [hcut]

theorem imageText_imageIn (library text : String) :
    imageText (imageIn library text).name (imageIn library text).tag = text := by
  unfold imageIn
  split
  · rename_i hcut
    obtain ⟨htext, _⟩ := Text.cut?_eq_some_iff.1 hcut
    apply String.toList_inj.1
    simp [imageText, htext]
  · exact String.append_empty

theorem imageIn_space (library text : String) : (imageIn library text).space = library := by
  unfold imageIn
  split <;> rfl

/-- A lookup finds the parts of a documented image. -/
theorem ofRepository_imagePath (hspace : ∀ s ∈ space, IsName s) (hname : IsName name)
    (htag : ∀ t ∈ tag, IsName t) :
    Image.ofRepository (imagePath space name tag) = ⟨space.getD "library", name, tag⟩ := by
  cases space with
  | none =>
    have hslash := (isSegment_imageText hname htag).slash_not_mem
    rw [imagePath_none]
    calc
      Image.ofRepository (imageText name tag) = imageIn "library" (imageText name tag) :=
        ofRepository_of_no_cut (Text.cut?_eq_none_iff.2 hslash)
      _ = ⟨"library", name, tag⟩ := imageIn_imageText "library" hname
  | some s =>
    have hcut : Text.cut? '/' (imagePath (some s) name tag) = some (s, imageText name tag) :=
      Text.cut?_eq_some_iff.2 ⟨by simp [imagePath], (hspace s rfl).slash_not_mem⟩
    calc
      Image.ofRepository (imagePath (some s) name tag) = imageIn s (imageText name tag) :=
        ofRepository_of_cut hcut
      _ = ⟨s, name, tag⟩ := imageIn_imageText s hname

/-- A lookup takes every path apart without loss. -/
theorem exists_imagePath (path : String) :
    ∃ space : Option String, (∀ s ∈ space, s = (Image.ofRepository path).space) ∧
      imagePath space (Image.ofRepository path).name (Image.ofRepository path).tag = path := by
  cases hcut : Text.cut? '/' path with
  | none =>
    rw [ofRepository_of_no_cut hcut]
    exact ⟨none, nofun, (imagePath_none _ _).trans (imageText_imageIn "library" path)⟩
  | some parts =>
    obtain ⟨hpath, _⟩ := Text.cut?_eq_some_iff.1 hcut
    rw [ofRepository_of_cut hcut]
    refine ⟨some parts.1, ?_, ?_⟩
    · intro s hs
      rw [imageIn_space]
      exact (Option.some.inj hs).symm
    · unfold imagePath
      rw [imageText_imageIn]
      apply String.toList_inj.1
      simp [hpath]

end

end ReleaseEntry

/-- All parts of the image are such as a documented path has. -/
structure Image.IsProper (i : Image) : Prop where
  space : ReleaseEntry.IsName i.space
  name : ReleaseEntry.IsName i.name
  tag : ∀ t ∈ i.tag, ReleaseEntry.IsName t

namespace ReleaseEntry

variable {source : ReleaseSource} {path text : String} {e : ReleaseEntry}

theorem isName_library : IsName "library" :=
  { ne_empty := by decide
    slash_not_mem := by decide
    colon_not_mem := by decide }

/-- A path at Docker Hub is documented exactly if a lookup takes it apart into proper parts. -/
theorem isPath_dockerhub_iff : IsPath .dockerhub path ↔ (Image.ofRepository path).IsProper := by
  constructor
  · intro h
    cases h with
    | repository hsource => exact absurd hsource (by decide)
    | @image space tag name hspace hname htag =>
      rw [ofRepository_imagePath hspace hname htag]
      refine ⟨?_, hname, htag⟩
      cases space with
      | none => exact isName_library
      | some s => exact hspace s rfl
  · intro h
    obtain ⟨space, hspace, hpath⟩ := exists_imagePath path
    rw [← hpath]
    apply IsPath.image
    · intro s hs
      rw [hspace s hs]
      exact h.space
    · exact h.name
    · exact h.tag

/-! ## Paths that are read -/

theorem isPath_of_pair (hsource : source = .github ∨ source = .codeberg)
    (hparts : ∀ s ∈ pathSegments path, IsSegment s) (htwo : (pathSegments path).length = 2)
    (hcolon : ':' ∉ path.toList) : IsPath source path := by
  obtain ⟨owner, name, hpair⟩ := List.length_eq_two.1 htwo
  have hpath : owner ++ "/" ++ name = path :=
    calc
      owner ++ "/" ++ name = "/".intercalate (pathSegments path) := by
        rw [hpair]
        rfl
      _ = path := intercalate_pathSegments path
  rw [hpair, List.forall_mem_cons, List.forall_mem_singleton] at hparts
  rw [← hpath] at hcolon ⊢
  simp only [String.toList_append, List.mem_append, not_or] at hcolon
  apply IsPath.repository hsource
  · exact ⟨hparts.1, hcolon.1.1⟩
  · exact ⟨hparts.2, hcolon.2⟩

theorem isTaken_of_accepts (h : accepts source path.toList) : IsTaken source path := by
  obtain ⟨hparts, hshape⟩ := accepts_iff.1 h
  have hpath := intercalate_pathSegments path
  cases source with
  | github => exact .documented (isPath_of_pair (.inl rfl) hparts hshape.1 hshape.2)
  | codeberg => exact .documented (isPath_of_pair (.inr rfl) hparts hshape.1 hshape.2)
  | gitlab => exact hpath ▸ IsTaken.documented (.project hshape hparts)
  | dockerhub =>
    have hpos := List.length_pos_of_ne_nil (pathSegments_ne_nil path)
    have hcount : (pathSegments path).length = 1 ∨ (pathSegments path).length = 2 := by omega
    exact hpath ▸ IsTaken.segments hcount hparts

theorem pathSegments_of_forall_isSegment {segments : List String} (hne : segments ≠ [])
    (h : ∀ s ∈ segments, IsSegment s) : pathSegments ("/".intercalate segments) = segments :=
  pathSegments_intercalate hne fun s hs => (h s hs).slash_not_mem

theorem accepts_of_isPath (h : IsPath source path) : accepts source path.toList := by
  apply accepts_iff.2
  cases h with
  | @repository _ owner name hsource howner hname =>
    have hpair : pathSegments (owner ++ "/" ++ name) = [owner, name] :=
      pathSegments_pair howner.slash_not_mem hname.slash_not_mem
    have hcolon : ':' ∉ (owner ++ "/" ++ name).toList := by
      simp [howner.colon_not_mem, hname.colon_not_mem]
    rw [hpair, List.forall_mem_cons, List.forall_mem_singleton]
    refine ⟨⟨howner.toIsSegment, hname.toIsSegment⟩, ?_⟩
    rcases hsource with rfl | rfl
    · exact ⟨rfl, hcolon⟩
    · exact ⟨rfl, hcolon⟩
  | @project segments htwo hsegments =>
    have hne : segments ≠ [] := List.ne_nil_of_length_pos (by omega)
    rw [pathSegments_of_forall_isSegment hne hsegments]
    exact ⟨hsegments, htwo⟩
  | @image space tag name hspace hname htag =>
    rw [pathSegments_imagePath hspace hname htag]
    constructor
    · intro s hs
      rcases List.mem_append.1 hs with hmem | hmem
      · exact (hspace s (Option.mem_toList.1 hmem)).toIsSegment
      · rw [List.mem_singleton.1 hmem]
        exact isSegment_imageText hname htag
    · cases space with
      | none => exact Nat.le_succ 1
      | some => exact Nat.le_refl 2

theorem accepts_of_isTaken (h : IsTaken source path) : accepts source path.toList := by
  cases h with
  | documented h => exact accepts_of_isPath h
  | @segments segments hcount hsegments =>
    have hne : segments ≠ [] := List.ne_nil_of_length_pos (by omega)
    apply accepts_iff.2
    rw [pathSegments_of_forall_isSegment hne hsegments]
    exact ⟨hsegments, by omega⟩

theorem accepts_iff_isTaken : accepts source path.toList ↔ IsTaken source path :=
  ⟨isTaken_of_accepts, accepts_of_isTaken⟩

/-- At GitHub no path with a colon is read. -/
theorem IsTaken.colon_not_mem (h : IsTaken .github path) : ':' ∉ path.toList :=
  (accepts_iff.1 (accepts_iff_isTaken.2 h)).2.2

/-- A path that is read is documented, unless a lookup takes it apart into improper parts. -/
theorem IsTaken.isPath_iff (h : IsTaken source path) :
    IsPath source path ↔ (source = .dockerhub → (Image.ofRepository path).IsProper) := by
  constructor
  · rintro hpath rfl
    exact isPath_dockerhub_iff.1 hpath
  · intro hproper
    cases h with
    | documented hpath => exact hpath
    | segments => exact isPath_dockerhub_iff.2 (hproper rfl)

/-! ## Sources -/

theorem colon_not_mem_name (source : ReleaseSource) : ':' ∉ source.name.toList := by
  cases source <;> decide

theorem sourceAndPath_named (source : ReleaseSource) (path : String) :
    sourceAndPath (source.name ++ ":" ++ path) = (source, path) := by
  have hcut : Text.cut? ':' (source.name ++ ":" ++ path) = some (source.name, path) :=
    Text.cut?_eq_some_iff.2 ⟨by simp, colon_not_mem_name source⟩
  unfold sourceAndPath
  rw [hcut]
  dsimp only
  rw [ReleaseSource.ofName?_name]

theorem sourceAndPath_of_no_colon (h : ':' ∉ text.toList) :
    sourceAndPath text = (.github, text) := by
  unfold sourceAndPath
  rw [Text.cut?_eq_none_iff.2 h]

theorem sourceAndPath_of_unknown {before after : String} (hcolon : ':' ∉ before.toList)
    (hunknown : ∀ source : ReleaseSource, before ≠ source.name) :
    sourceAndPath (before ++ ":" ++ after) = (.github, before ++ ":" ++ after) := by
  have hcut : Text.cut? ':' (before ++ ":" ++ after) = some (before, after) :=
    Text.cut?_eq_some_iff.2 ⟨by simp, hcolon⟩
  have hname : ReleaseSource.ofName? before = none := by
    apply Option.eq_none_iff_forall_ne_some.2
    intro source hsource
    exact hunknown source (ReleaseSource.ofName?_eq_some.1 hsource)
  unfold sourceAndPath
  rw [hcut]
  dsimp only
  rw [hname]

/-- What stands before the first colon of a text: a source, or something that is none, if there is a
colon at all. -/
inductive Front : String → Prop
  | known (source : ReleaseSource) (path : String) : Front (source.name ++ ":" ++ path)
  | unknown {before : String} (after : String) (hcolon : ':' ∉ before.toList)
      (hunknown : ∀ source : ReleaseSource, before ≠ source.name) : Front (before ++ ":" ++ after)
  | missing {text : String} (hcolon : ':' ∉ text.toList) : Front text

theorem front (text : String) : Front text := by
  cases hcut : Text.cut? ':' text with
  | none => exact .missing (Text.cut?_eq_none_iff.1 hcut)
  | some parts =>
    obtain ⟨hchars, hcolon⟩ := Text.cut?_eq_some_iff.1 hcut
    have htext : text = parts.1 ++ ":" ++ parts.2 := by
      apply String.toList_inj.1
      simp [hchars]
    rw [htext]
    by_cases hknown : ∃ source : ReleaseSource, parts.1 = source.name
    · obtain ⟨source, hsource⟩ := hknown
      rw [hsource]
      exact .known source parts.2
    · exact .unknown parts.2 hcolon (not_exists.1 hknown)

/-! ## Entries -/

theorem parse_eq (h : sourceAndPath text = (source, path)) :
    parse text = if accepts source path.toList then .ok ⟨source, path⟩
      else .error ⟨text, source⟩ := by
  unfold parse
  rw [h]

theorem parse_eq_ok_iff (h : sourceAndPath text = (source, path)) :
    parse text = .ok e ↔ e = ⟨source, path⟩ ∧ IsTaken source path := by
  rw [parse_eq h, ← accepts_iff_isTaken]
  constructor
  · intro hparse
    split at hparse
    · rename_i haccepts
      exact ⟨(Except.ok.inj hparse).symm, haccepts⟩
    · cases hparse
  · rintro ⟨rfl, haccepts⟩
    exact if_pos haccepts

/-- A text with an unknown source in front is refused. -/
theorem parse_of_unknown {before after : String} (hcolon : ':' ∉ before.toList)
    (hunknown : ∀ source : ReleaseSource, before ≠ source.name) :
    parse (before ++ ":" ++ after) = .error ⟨before ++ ":" ++ after, .github⟩ := by
  rw [parse_eq (sourceAndPath_of_unknown hcolon hunknown)]
  apply if_neg
  intro haccepts
  apply (accepts_iff_isTaken.1 haccepts).colon_not_mem
  simp

theorem spells_of_parse_eq_ok (h : parse text = .ok e) : Spells IsTaken text e := by
  cases front text with
  | known source path =>
    obtain ⟨rfl, hpath⟩ := (parse_eq_ok_iff (sourceAndPath_named source path)).1 h
    exact .named hpath
  | unknown after hcolon hunknown =>
    rw [parse_of_unknown hcolon hunknown] at h
    cases h
  | missing hcolon =>
    obtain ⟨rfl, hpath⟩ := (parse_eq_ok_iff (sourceAndPath_of_no_colon hcolon)).1 h
    exact .unnamed hpath

theorem parse_eq_ok_of_spells (h : Spells IsTaken text e) : parse text = .ok e := by
  cases h with
  | named hpath => exact (parse_eq_ok_iff (sourceAndPath_named _ _)).2 ⟨rfl, hpath⟩
  | unnamed hpath =>
    -- Without a source in front, a colon of the path would be taken for the end of one.
    exact (parse_eq_ok_iff (sourceAndPath_of_no_colon hpath.colon_not_mem)).2 ⟨rfl, hpath⟩

/-- The entries that are read are those of the documented grammar, and at Docker Hub those of one or
two segments. Every documented entry is read. One that is read is documented unless its image has a
part that is empty or holds a separator. A text with an unknown source in front is refused. -/
theorem parse_eq_ok_iff_spells (text : String) :
    (∀ e, parse text = .ok e ↔ Spells IsTaken text e) ∧
      (∀ e, Spells IsPath text e → parse text = .ok e) ∧
      (∀ e, parse text = .ok e →
        (Spells IsPath text e ↔
          (e.source = .dockerhub → (Image.ofRepository e.repository).IsProper))) ∧
      ∀ before after, text = before ++ ":" ++ after → ':' ∉ before.toList →
        (∀ source : ReleaseSource, before ≠ source.name) → parse text = .error ⟨text, .github⟩ := by
  refine ⟨fun e => ⟨spells_of_parse_eq_ok, parse_eq_ok_of_spells⟩, ?_, ?_, ?_⟩
  · intro e h
    exact parse_eq_ok_of_spells (h.of_path (.documented h.path))
  · intro e h
    have hspells := spells_of_parse_eq_ok h
    constructor
    · intro hdocumented
      exact hspells.path.isPath_iff.1 hdocumented.path
    · intro hproper
      exact hspells.of_path (hspells.path.isPath_iff.2 hproper)
  · rintro before after rfl hcolon hunknown
    exact parse_of_unknown hcolon hunknown

/-- A project whose path holds a colon, in a group that is called like a source. -/
theorem parse_eq_ok_iff_spells_project :
    parse "gitlab:github/web:api" = .ok ⟨.gitlab, "github/web:api"⟩ ∧
      Spells IsPath "gitlab:github/web:api" ⟨.gitlab, "github/web:api"⟩ ∧
      parse "svn:a/b" = .error ⟨"svn:a/b", .github⟩ := by
  have hparse : parse "gitlab:github/web:api" = .ok ⟨.gitlab, "github/web:api"⟩ := by decide
  refine ⟨hparse, ?_, ?_⟩
  · obtain ⟨_, _, hdocumented, _⟩ := parse_eq_ok_iff_spells "gitlab:github/web:api"
    exact (hdocumented _ hparse).2 nofun
  · obtain ⟨_, _, _, hunknown⟩ := parse_eq_ok_iff_spells "svn:a/b"
    exact hunknown "svn" "a/b" (by decide) (by decide) (by intro source; cases source <;> decide)

/-- An image with a colon and no tag after it is read, but not documented. -/
theorem parse_eq_ok_not_iff_spells_emptyTag :
    ¬ ∀ text e, parse text = .ok e ↔ Spells IsPath text e := by
  intro hclaim
  have hparse : parse "dockerhub:nginx:" = .ok ⟨.dockerhub, "nginx:"⟩ := by decide
  have hpath : IsPath .dockerhub "nginx:" := ((hclaim _ _).1 hparse).path
  have htag : IsName "" := (isPath_dockerhub_iff.1 hpath).tag "" (by decide)
  exact htag.ne_empty rfl

end ReleaseEntry

end DashboardRefresh
