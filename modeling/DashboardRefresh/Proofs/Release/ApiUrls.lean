import DashboardRefresh.Proofs.Url.AppendedSegments
import DashboardRefresh.Release.Lookup

/-!
# URLs below the root of an API

Below a root of the web every list of segments has a URL, which differs from the root in its path
only. Its path ends with one piece for each segment, which decodes to the segment and holds nothing
that would split it or end the path. So different segments have different URLs.
-/

namespace DashboardRefresh

open Url

variable {base : String} {root : Url}

/-- The segments are pushed onto the path of the root, and nothing else of it is changed. -/
theorem apiUrl_eq {path : List String} (hroot : Url.parse base = .ok root)
    (hpath : root.path = .segments path) (segments : List String) :
    apiUrl base segments = .ok { root with
      path := .segments (segments.foldl (pushSegment root.scheme) (popEmpty path)) } := by
  unfold apiUrl append?
  simp only [hroot, hpath]

/-- Below a root every list of whole segments stands behind the path of the root, without empty
segments at its end. -/
theorem exists_front (hroot : Url.parse base = .ok root) (hweb : IsWeb root.scheme) :
    ∃ front rest : List String, root.path = .segments (front ++ rest) ∧ (∀ p ∈ rest, p = "") ∧
      ∀ segments : List String, segments ≠ [] → (∀ s ∈ segments, IsWhole s) →
        apiUrl base segments =
          .ok { root with path := .segments (front ++ segments.map piece) } := by
  obtain ⟨path, hpath⟩ := (isHierarchical_of_parse hroot hweb).exists_segments
  obtain ⟨rest, hrest, hempty⟩ := exists_kept_popEmpty_append path
  refine ⟨kept (popEmpty path), rest, ?_, hempty, fun segments hne hwhole => ?_⟩
  · rw [hpath, ← hrest]
  · rw [apiUrl_eq hroot hpath, foldl_pushSegment hweb hne hwhole]

/-- The pieces of whole segments decode to the segments. -/
theorem map_decodeText?_piece {segments : List String} (h : ∀ s ∈ segments, IsWhole s) :
    (segments.map piece).map (Percent.decodeText? ·.toList) = segments.map some := by
  rw [List.map_map]
  apply List.map_congr_left
  intro s hs
  rw [Function.comp_apply, (h s hs).decodeText?_piece]

/-- Whole segments are told apart by the text of a URL that ends with their pieces. -/
theorem eq_of_text_eq {front segments others : List String} (hhost : root.host ≠ none)
    (hsegments : ∀ s ∈ segments, IsWhole s) (hothers : ∀ s ∈ others, IsWhole s)
    (h : { root with path := .segments (front ++ others.map piece) }.text =
      { root with path := .segments (front ++ segments.map piece) }.text) : others = segments := by
  have hsame : (UrlPath.segments (front ++ others.map piece)).pieces =
      (UrlPath.segments (front ++ segments.map piece)).pieces := by
    unfold UrlPath.pieces
    rw [path_text_of_text hhost h]
  rw [UrlPath.pieces_append _ slash_not_mem_of_mem_map_piece,
    UrlPath.pieces_append _ slash_not_mem_of_mem_map_piece] at hsame
  have hparts := List.append_cancel_left hsame
  have hdecoded := congrArg (List.map (Percent.decodeText? ·.toList)) hparts
  rw [map_decodeText?_piece hothers, map_decodeText?_piece hsegments] at hdecoded
  exact List.map_injective_iff.2 (fun _ _ => Option.some.inj) hdecoded

/-- Below a root of the web every list of whole segments has a URL, which is the root but for its
path. The path is that of the root, without empty segments at its end, and then one piece between
slashes for each segment. The piece decodes to the segment and holds printable characters of ASCII
only, and none that would split it or end the path. Another list of whole segments has a URL with
another text. -/
theorem apiUrl_ends_with_segments {segments : List String} (hroot : Url.parse base = .ok root)
    (hweb : IsWeb root.scheme) (hne : segments ≠ []) (hwhole : ∀ s ∈ segments, IsWhole s) :
    ∃ url front rest parts, apiUrl base segments = .ok url ∧
      root.path = .segments (front ++ rest) ∧ (∀ p ∈ rest, p = "") ∧
      url = { root with path := .segments (front ++ parts) } ∧
      url.path.pieces = (UrlPath.segments front).pieces ++ parts ∧
      parts.map (Percent.decodeText? ·.toList) = segments.map some ∧
      (∀ part ∈ parts, ∀ c ∈ part.toList, isPieceChar c) ∧
      ∀ others : List String, others ≠ [] → (∀ s ∈ others, IsWhole s) →
        others ≠ segments → ∃ other, apiUrl base others = .ok other ∧ other.text ≠ url.text := by
  obtain ⟨front, rest, hpath, hempty, hfront⟩ := exists_front hroot hweb
  have hchars : ∀ part ∈ segments.map piece, ∀ c ∈ part.toList, isPieceChar c := by
    intro part hpart c hc
    obtain ⟨s, _, rfl⟩ := List.mem_map.1 hpart
    exact isPieceChar_of_mem_piece hc
  refine ⟨_, front, rest, segments.map piece, hfront segments hne hwhole, hpath, hempty, rfl,
    UrlPath.pieces_append front slash_not_mem_of_mem_map_piece, map_decodeText?_piece hwhole,
    hchars, ?_⟩
  intro others hsome hothers hdiffer
  refine ⟨_, hfront others hsome hothers, fun htext => hdiffer ?_⟩
  have hhost := (isHierarchical_of_parse hroot hweb).host_ne_none
  exact eq_of_text_eq hhost hwhole hothers htext

/-- A root with a port and a path, and segments that hold what would split them. -/
theorem apiUrl_ends_with_segments_port :
    ∃ root url, Url.parse "http://gitlab.test:8080/git" = .ok root ∧ IsWeb root.scheme ∧
      (∀ s ∈ ["group/a b", "50%?#", "ü\\"], IsWhole s) ∧
      apiUrl "http://gitlab.test:8080/git" ["group/a b", "50%?#", "ü\\"] = .ok url ∧
      url.text = "http://gitlab.test:8080/git/group%2Fa%20b/50%25%3F%23/%C3%BC%5C" := by
  have hroot : Url.parse "http://gitlab.test:8080/git" = .ok
      ⟨"http", "", none, some "gitlab.test", some 8080, .segments ["git"], none, none⟩ := by decide
  have hweb : IsWeb "http" := by decide
  have hwhole : ∀ s ∈ ["group/a b", "50%?#", "ü\\"], IsWhole s := by decide
  obtain ⟨url, _, _, _, hurl, _⟩ :=
    apiUrl_ends_with_segments hroot hweb (List.cons_ne_nil _ _) hwhole
  have htext : (apiUrl "http://gitlab.test:8080/git" ["group/a b", "50%?#", "ü\\"]).map Url.text =
      .ok "http://gitlab.test:8080/git/group%2Fa%20b/50%25%3F%23/%C3%BC%5C" := by decide
  rw [hurl] at htext
  exact ⟨_, url, hroot, hweb, hwhole, hurl, Except.ok.inj htext⟩

end DashboardRefresh
