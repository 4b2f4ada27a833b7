import DashboardRefresh.Proofs.Url.AppendedSegments
import Mathlib.Data.List.Induction

/-!
# Named segments

No piece that is appended to a path decodes to a dot segment or to a text with tabs or line breaks.
So the pieces at the end of a path decode to the segments that were appended only if all of these
are whole.
-/

namespace DashboardRefresh.Url

variable {scheme segment : String} {segments path front parts : List String}

/-- A piece without slashes that decodes to a plain text. -/
structure IsPlainPiece (piece : String) : Prop where
  slash_not_mem : '/' ∉ piece.toList
  exists_isPlain : ∃ text, Percent.decodeText? piece.toList = some text ∧ IsPlain text

theorem isPlainPiece_empty : IsPlainPiece "" where
  slash_not_mem := List.not_mem_nil
  exists_isPlain := ⟨"", rfl, by decide⟩

theorem isPlainPiece_piece (hsingle : ¬ isSingleDot (encodeSegment true segment))
    (hdouble : ¬ isDoubleDot (encodeSegment true segment)) : IsPlainPiece (piece segment) where
  slash_not_mem := slash_not_mem_piece segment
  exists_isPlain := by
    have hencoded {text : String} (h : String.ofList (stripBreaks segment.toList) = text) :
        encodeSegment true segment = Percent.encode (Percent.keepSegment true) text.toList := by
      rw [← h, String.toList_ofList]
      rfl
    refine ⟨String.ofList (stripBreaks segment.toList), ?_, ?_⟩
    · rw [piece, String.toList_ofList, decodeText?_encodeSegment]
    constructor
    · intro hdot
      rw [hencoded hdot] at hsingle
      exact hsingle (by decide)
    · intro hdots
      rw [hencoded hdots] at hdouble
      exact hdouble (by decide)
    · rw [String.toList_ofList]
      exact breaks_not_mem_stripBreaks _

/-- The last segment of a path, if there is one, is a plain piece. -/
def EndsPlainly (path : List String) : Prop := ∀ last ∈ path.getLast?, IsPlainPiece last

theorem endsPlainly_concat {last : String} (h : IsPlainPiece last) (path : List String) :
    EndsPlainly (path ++ [last]) := by
  intro found hfound
  rw [List.getLast?_append, List.getLast?_singleton] at hfound
  cases hfound
  exact h

/-- Whatever is pushed, a path goes on ending plainly: a segment that is no plain text is passed
over, or takes an empty piece in its place. -/
theorem endsPlainly_pushSegment (hweb : IsWeb scheme) (h : EndsPlainly path) (segment : String) :
    EndsPlainly (pushSegment scheme path segment) := by
  have hfile : (scheme == "file") = false := beq_eq_false_iff_ne.2 hweb.ne_file
  unfold pushSegment
  split
  · exact h
  · rw [hweb.isSpecialScheme, hfile]
    dsimp only
    rw [if_neg hweb.ne_file]
    unfold addSegment
    split
    · exact endsPlainly_concat isPlainPiece_empty _
    · rename_i hdouble
      split
      · exact endsPlainly_concat isPlainPiece_empty _
      · rename_i hsingle
        exact endsPlainly_concat (isPlainPiece_piece hsingle hdouble) _

theorem endsPlainly_foldl (hweb : IsWeb scheme) (h : EndsPlainly path) (segments : List String) :
    EndsPlainly (segments.foldl (pushSegment scheme) path) := by
  induction segments generalizing path with
  | nil => exact h
  | cons s rest ih => exact ih (endsPlainly_pushSegment hweb h s)

/-- At the end of such a path only plain texts are named. -/
theorem EndsPlainly.isPlain {last : String} (h : EndsPlainly path)
    (hpieces : (UrlPath.segments path).pieces = front ++ [last])
    (hdecoded : Percent.decodeText? last.toList = some segment) : IsPlain segment := by
  rcases List.eq_nil_or_concat path with rfl | ⟨before, found, rfl⟩
  · exact absurd hpieces.symm (List.append_ne_nil_of_right_ne_nil _ (List.cons_ne_nil _ _))
  · have hfound : IsPlainPiece found := h found (by simp)
    have hslash : ∀ p ∈ [found], '/' ∉ p.toList := by simpa using hfound.slash_not_mem
    rw [List.concat_eq_append, UrlPath.pieces_append before hslash] at hpieces
    obtain ⟨_, hlast⟩ := List.append_inj' hpieces rfl
    obtain rfl := List.singleton_inj.1 hlast
    obtain ⟨text, htext, hplain⟩ := hfound.exists_isPlain
    rw [htext] at hdecoded
    exact Option.some.inj hdecoded ▸ hplain

/-- If the last pieces of a path decode to the segments that were pushed, these are whole. -/
theorem isWhole_of_pieces (hweb : IsWeb scheme) (hplain : EndsPlainly path)
    (hne : ∀ s ∈ segments, s ≠ "")
    (hpieces : (UrlPath.segments (segments.foldl (pushSegment scheme) path)).pieces =
      front ++ parts)
    (hdecoded : parts.map (Percent.decodeText? ·.toList) = segments.map some) :
    ∀ s ∈ segments, IsWhole s := by
  -- The last segment is plain, so that its piece can be taken off; then those before it come last.
  induction segments using List.reverseRecOn generalizing parts with
  | nil => exact List.forall_mem_nil _
  | append_singleton init s ih =>
    rw [List.map_append] at hdecoded
    obtain ⟨initParts, lastParts, rfl, hinit, hlasts⟩ := List.map_eq_append_iff.1 hdecoded
    obtain ⟨last, rfl, hlast⟩ := List.map_eq_singleton_iff.1 hlasts
    rw [← List.append_assoc] at hpieces
    have hend := endsPlainly_foldl hweb hplain (init ++ [s])
    have hs : IsWhole s :=
      { hend.isPlain hpieces hlast with ne_empty := hne s (by simp) }
    rw [List.foldl_append, List.foldl_cons, List.foldl_nil, pushSegment_of_isWhole hweb hs,
      UrlPath.pieces_append _ (by simpa using slash_not_mem_piece s)] at hpieces
    obtain ⟨hfront, _⟩ := List.append_inj' hpieces rfl
    have hbefore : ∀ t ∈ init, IsWhole t := by
      unfold kept at hfront
      split at hfront
      · obtain ⟨_, rfl⟩ := List.append_eq_nil_iff.1 hfront.symm
        obtain rfl := List.map_eq_nil_iff.1 hinit.symm
        exact List.forall_mem_nil _
      · exact ih (fun t ht => hne t (List.mem_append_left _ ht)) hfront hinit
    exact List.forall_mem_append.2 ⟨hbefore, List.forall_mem_singleton.2 hs⟩

end DashboardRefresh.Url
