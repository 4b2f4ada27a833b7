import DashboardRefresh.Proofs.Url.PercentRoundTrip
import DashboardRefresh.Proofs.Url.WebUrls
import DashboardRefresh.Text.Split
import DashboardRefresh.Url.Segments

/-!
# Appended segments

A segment that is not empty, is no dot segment and holds no tab and no line break is appended to the
path of a URL as one piece between slashes, and this piece decodes to the segment. So the pieces at
the end of the path are those that were appended, and tell them apart.
-/

namespace DashboardRefresh.Url

/-! ## Dot segments -/

/-- What becomes a character in lower case is this character or its capital letter. -/
theorem eq_of_toLower_eq {c d : Char} (h : c.toLower = d) :
    c = d ∨ c.toNat + 32 = d.toNat ∧ 65 ≤ c.toNat := by
  unfold Char.toLower at h
  split at h
  · rename_i hupper
    subst h
    have hlow : 65 ≤ c.val.toNat := UInt32.le_iff_toNat_le.1 hupper.1
    have hhigh : c.val.toNat ≤ 90 := UInt32.le_iff_toNat_le.1 hupper.2
    have hstep : (32 : UInt32).toNat = 32 := rfl
    refine .inr ⟨?_, hlow⟩
    show c.val.toNat + 32 = (c.val + 32).toNat
    rw [UInt32.toNat_add]
    omega
  · exact .inl h

theorem eq_of_toLower_eq_sign {c d : Char} (h : c.toLower = d) (hd : d.toNat < 97) : c = d := by
  rcases eq_of_toLower_eq h with rfl | hupper
  · rfl
  · omega

theorem eq_of_toLower_eq_e {c : Char} (h : c.toLower = 'e') : c = 'e' ∨ c = 'E' := by
  rcases eq_of_toLower_eq h with rfl | hupper
  · exact .inl rfl
  · have hsmall : 'e'.toNat = 101 := rfl
    have hcapital : 'E'.toNat = 69 := rfl
    exact .inr (Char.toNat_inj.1 (by omega))

/-- A dot, or its percent encoding. -/
def IsDot (cs : List Char) : Prop := cs = ['.'] ∨ cs = ['%', '2', 'e'] ∨ cs = ['%', '2', 'E']

theorem isDot_of_map {cs : List Char} (h : cs.map Char.toLower = ['%', '2', 'e']) : IsDot cs := by
  obtain ⟨a, rest, rfl, ha, hrest⟩ := List.map_eq_cons_iff.1 h
  obtain ⟨b, rest, rfl, hb, hrest⟩ := List.map_eq_cons_iff.1 hrest
  obtain ⟨c, rest, rfl, hc, hrest⟩ := List.map_eq_cons_iff.1 hrest
  obtain rfl := List.map_eq_nil_iff.1 hrest
  obtain rfl := eq_of_toLower_eq_sign ha (by decide)
  obtain rfl := eq_of_toLower_eq_sign hb (by decide)
  rcases eq_of_toLower_eq_e hc with rfl | rfl
  · exact .inr (.inl rfl)
  · exact .inr (.inr rfl)

theorem isDot_of_map_dot {cs : List Char} (h : cs.map Char.toLower = ['.']) : IsDot cs := by
  obtain ⟨a, rest, rfl, ha, hrest⟩ := List.map_eq_cons_iff.1 h
  obtain rfl := List.map_eq_nil_iff.1 hrest
  obtain rfl := eq_of_toLower_eq_sign ha (by decide)
  exact .inl rfl

theorem decode_of_isDot {cs : List Char} (h : IsDot cs) (rest : List Char) :
    Percent.decode (cs ++ rest) = 46 :: Percent.decode rest := by
  rcases h with rfl | rfl | rfl
  · exact Percent.decode_cons_of_ne (by decide) rest
  · rfl
  · rfl

theorem isDot_of_isSingleDot {cs : List Char} (h : isSingleDot cs) : IsDot cs := by
  unfold isSingleDot at h
  rcases Bool.or_eq_true_iff.1 h with hdot | hencoded
  · exact .inl (beq_iff_eq.1 hdot)
  · exact isDot_of_map (beq_iff_eq.1 hencoded)

theorem exists_isDot_of_isDoubleDot {cs : List Char} (h : isDoubleDot cs) :
    ∃ first second, IsDot first ∧ IsDot second ∧ cs = first ++ second := by
  have hsplit {a b : List Char} (ha : ∀ {cs}, cs.map Char.toLower = a → IsDot cs)
      (hb : ∀ {cs}, cs.map Char.toLower = b → IsDot cs)
      (heq : cs.map Char.toLower = a ++ b) :
      ∃ first second, IsDot first ∧ IsDot second ∧ cs = first ++ second := by
    obtain ⟨first, second, hcs, hfirst, hsecond⟩ := List.map_eq_append_iff.1 heq
    exact ⟨first, second, ha hfirst, hb hsecond, hcs⟩
  unfold isDoubleDot at h
  simp only [Bool.or_eq_true, beq_iff_eq] at h
  rcases h with ((h | h) | h) | h
  · exact hsplit isDot_of_map_dot isDot_of_map_dot h
  · exact hsplit isDot_of_map_dot isDot_of_map h
  · exact hsplit isDot_of_map isDot_of_map_dot h
  · exact hsplit isDot_of_map isDot_of_map h

theorem decodeText?_of_isSingleDot {cs : List Char} (h : isSingleDot cs) :
    Percent.decodeText? cs = some "." := by
  have hbytes : Percent.decode cs = ['.'].flatMap String.utf8EncodeChar := by
    rw [← List.append_nil cs]
    exact decode_of_isDot (isDot_of_isSingleDot h) []
  exact Percent.decodeText?_of_decode hbytes

theorem decodeText?_of_isDoubleDot {cs : List Char} (h : isDoubleDot cs) :
    Percent.decodeText? cs = some ".." := by
  obtain ⟨first, second, hfirst, hsecond, rfl⟩ := exists_isDot_of_isDoubleDot h
  have hbytes : Percent.decode (first ++ second) = ['.', '.'].flatMap String.utf8EncodeChar := by
    rw [decode_of_isDot hfirst, ← List.append_nil second, decode_of_isDot hsecond]
    rfl
  exact Percent.decodeText?_of_decode hbytes

/-! ## Whole segments -/

/-- A text that means nothing but itself in a path: no dot segment, and without tabs and line
breaks. -/
structure IsPlain (segment : String) : Prop where
  ne_dot : segment ≠ "."
  ne_dots : segment ≠ ".."
  breaks_not_mem : '\t' ∉ segment.toList ∧ '\n' ∉ segment.toList ∧ '\r' ∉ segment.toList

/-- A text that can be appended to a path as one segment. -/
structure IsWhole (segment : String) : Prop extends IsPlain segment where
  ne_empty : segment ≠ ""

instance (segment : String) : Decidable (IsPlain segment) :=
  decidable_of_iff
    (segment ≠ "." ∧ segment ≠ ".." ∧
      '\t' ∉ segment.toList ∧ '\n' ∉ segment.toList ∧ '\r' ∉ segment.toList)
    ⟨fun h => ⟨h.1, h.2.1, h.2.2⟩, fun h => ⟨h.1, h.2, h.3⟩⟩

instance (segment : String) : Decidable (IsWhole segment) :=
  decidable_of_iff (IsPlain segment ∧ segment ≠ "") ⟨fun h => ⟨h.1, h.2⟩, fun h => ⟨h.1, h.2⟩⟩

variable {special : Bool} {scheme segment : String} {segments path : List String}

theorem keepSegment_percent (special : Bool) : Percent.keepSegment special '%' = false := by
  cases special <;> decide

/-- An encoded segment decodes to the segment without its tabs and line breaks. -/
theorem decodeText?_encodeSegment (special : Bool) (segment : String) :
    Percent.decodeText? (encodeSegment special segment) =
      some (String.ofList (stripBreaks segment.toList)) :=
  Percent.decodeText?_encode (keepSegment_percent special) _

theorem breaks_not_mem_stripBreaks (cs : List Char) :
    '\t' ∉ stripBreaks cs ∧ '\n' ∉ stripBreaks cs ∧ '\r' ∉ stripBreaks cs := by
  unfold stripBreaks
  simp

theorem stripBreaks_eq_self {cs : List Char} (h : '\t' ∉ cs ∧ '\n' ∉ cs ∧ '\r' ∉ cs) :
    stripBreaks cs = cs := by
  obtain ⟨htab, hfeed, hreturn⟩ := h
  unfold stripBreaks
  apply List.filter_eq_self.2
  intro c hc
  have hnotTab := ne_of_mem_of_not_mem hc htab
  have hnotFeed := ne_of_mem_of_not_mem hc hfeed
  have hnotReturn := ne_of_mem_of_not_mem hc hreturn
  simp [hnotTab, hnotFeed, hnotReturn]

theorem IsWhole.decodeText?_encodeSegment (h : IsWhole segment) :
    Percent.decodeText? (encodeSegment special segment) = some segment := by
  rw [Url.decodeText?_encodeSegment, stripBreaks_eq_self h.breaks_not_mem, String.ofList_toList]

/-- A character that a piece of a path may hold: none that ends the piece or the path, and none
beyond ASCII. -/
def isPieceChar (c : Char) : Bool :=
  0x20 < c.toNat && c.toNat < 0x7F && c != '/' && c != '\\' && c != '?' && c != '#'

theorem isPieceChar_of_keepSegment {c : Char} (h : Percent.keepSegment true c) : isPieceChar c := by
  have hblank : ' '.toNat = 0x20 := rfl
  unfold Percent.keepSegment Percent.keepPath Percent.keepFragment Percent.keepOpaque at h
  unfold isPieceChar
  simp only [Bool.and_eq_true, decide_eq_true_eq, Bool.not_eq_true', List.contains_eq_mem,
    bne_iff_ne, decide_eq_false_iff_not, List.mem_cons, not_or, Bool.true_and, beq_eq_false_iff_ne]
    at h ⊢
  obtain ⟨⟨⟨⟨⟨⟨hlow, hhigh⟩, hspace, _⟩, hhash, hmark, _⟩, hslash⟩, _⟩, hbackslash⟩ := h
  have hnotBlank : c.toNat ≠ 0x20 := fun heq => hspace (Char.toNat_inj.1 (heq.trans hblank.symm))
  exact ⟨⟨⟨⟨⟨by omega, hhigh⟩, hslash⟩, hbackslash⟩, hmark⟩, hhash⟩

theorem isPieceChar_of_isHexChar {c : Char} (h : Percent.isHexChar c) : isPieceChar c := by
  have hsign {d : Char} (hd : Percent.isHexChar d = false) : c ≠ d := by
    rintro rfl
    rw [hd] at h
    cases h
  have hrange : 0x20 < c.toNat ∧ c.toNat < 0x7F := by
    unfold Percent.isHexChar Char.isDigit at h
    simp only [Bool.or_eq_true, Bool.and_eq_true, decide_eq_true_eq] at h
    rcases h with ⟨hlow, hhigh⟩ | ⟨hlow, hhigh⟩
    · have hzero : 48 ≤ c.toNat := UInt32.le_iff_toNat_le.1 hlow
      have hnine : c.toNat ≤ 57 := UInt32.le_iff_toNat_le.1 hhigh
      omega
    · have hfirst : 65 ≤ c.toNat := UInt32.le_iff_toNat_le.1 hlow
      have hlast : c.toNat ≤ 70 := UInt32.le_iff_toNat_le.1 hhigh
      omega
  unfold isPieceChar
  simp only [Bool.and_eq_true, decide_eq_true_eq, bne_iff_ne]
  exact ⟨⟨⟨⟨hrange, hsign (by decide)⟩, hsign (by decide)⟩, hsign (by decide)⟩, hsign (by decide)⟩

/-- The encoded segments of the web. -/
theorem isPieceChar_of_mem_encodeSegment {c : Char} (h : c ∈ encodeSegment true segment) :
    isPieceChar c := by
  rcases Percent.mem_encode h with hkept | rfl | hdigit
  · exact isPieceChar_of_keepSegment hkept
  · decide
  · exact isPieceChar_of_isHexChar hdigit

/-! ## Pushing segments -/

/-- A segment as it stands in a path of the web. -/
def piece (segment : String) : String := String.ofList (encodeSegment true segment)

theorem IsWhole.decodeText?_piece (h : IsWhole segment) :
    Percent.decodeText? (piece segment).toList = some segment := by
  rw [piece, String.toList_ofList, h.decodeText?_encodeSegment]

theorem isPieceChar_of_mem_piece {c : Char} (h : c ∈ (piece segment).toList) : isPieceChar c := by
  rw [piece, String.toList_ofList] at h
  exact isPieceChar_of_mem_encodeSegment h

theorem slash_not_mem_piece (segment : String) : '/' ∉ (piece segment).toList :=
  fun hmem => absurd (isPieceChar_of_mem_piece hmem) (by decide)

theorem slash_not_mem_of_mem_map_piece {segments : List String} :
    ∀ p ∈ segments.map piece, '/' ∉ p.toList := by
  intro p hp
  obtain ⟨s, _, rfl⟩ := List.mem_map.1 hp
  exact slash_not_mem_piece s

theorem IsWhole.piece_ne_empty (h : IsWhole segment) : piece segment ≠ "" := by
  intro hempty
  have hdecoded := h.decodeText?_piece
  rw [hempty] at hdecoded
  exact h.ne_empty (Option.some.inj hdecoded).symm

/-- The segments that are left of a path when one more is pushed: an empty one that stands alone
gives way. -/
def kept (path : List String) : List String := if path = [""] then [] else path

theorem kept_of_ne_empty {last : String} (h : last ≠ "") (path : List String) :
    kept (path ++ [last]) = path ++ [last] := by
  apply if_neg
  intro heq
  have hlast := congrArg List.getLast? heq
  rw [List.getLast?_append, List.getLast?_singleton] at hlast
  exact h (Option.some.inj hlast)

theorem exists_kept_append (path : List String) :
    ∃ rest, path = kept path ++ rest ∧ ∀ p ∈ rest, p = "" := by
  unfold kept
  split
  · rename_i halone
    exact ⟨[""], halone, by simp⟩
  · exact ⟨[], (List.append_nil path).symm, List.forall_mem_nil _⟩

theorem exists_popEmpty_append (path : List String) :
    ∃ rest, path = popEmpty path ++ rest ∧ ∀ p ∈ rest, p = "" := by
  unfold popEmpty
  split
  · rename_i hlast
    exact ⟨[""], (List.dropLast_append_getLast? "" hlast.2).symm, by simp⟩
  · exact ⟨[], (List.append_nil path).symm, List.forall_mem_nil _⟩

/-- What is pushed stands behind the path as it was, without empty segments at its end. -/
theorem exists_kept_popEmpty_append (path : List String) :
    ∃ rest, path = kept (popEmpty path) ++ rest ∧ ∀ p ∈ rest, p = "" := by
  obtain ⟨last, hlast, hempty⟩ := exists_popEmpty_append path
  obtain ⟨alone, halone, hnone⟩ := exists_kept_append (popEmpty path)
  refine ⟨alone ++ last, ?_, List.forall_mem_append.2 ⟨hnone, hempty⟩⟩
  rw [← List.append_assoc, ← halone, ← hlast]

/-- A segment is pushed as it is encoded, whatever the path. -/
theorem addSegment_piece (h : IsWhole segment) (path : List String) :
    addSegment false true path (encodeSegment true segment) = path ++ [piece segment] := by
  have hsingle : ¬ isSingleDot (encodeSegment true segment) := by
    intro hdot
    have hdecoded := decodeText?_of_isSingleDot hdot
    rw [h.decodeText?_encodeSegment] at hdecoded
    exact h.ne_dot (Option.some.inj hdecoded)
  have hdouble : ¬ isDoubleDot (encodeSegment true segment) := by
    intro hdots
    have hdecoded := decodeText?_of_isDoubleDot hdots
    rw [h.decodeText?_encodeSegment] at hdecoded
    exact h.ne_dots (Option.some.inj hdecoded)
  unfold addSegment
  rw [if_neg hdouble, if_neg hsingle]
  rfl

theorem pushSegment_of_isWhole (hweb : IsWeb scheme) (h : IsWhole segment) (path : List String) :
    pushSegment scheme path segment = kept path ++ [piece segment] := by
  have hfile : (scheme == "file") = false := beq_eq_false_iff_ne.2 hweb.ne_file
  unfold pushSegment
  rw [if_neg (not_or.2 ⟨h.ne_dot, h.ne_dots⟩), hweb.isSpecialScheme, hfile]
  dsimp only
  rw [addSegment_piece h, if_neg hweb.ne_file]
  rfl

/-- Segments are pushed one behind the other. -/
theorem foldl_pushSegment (hweb : IsWeb scheme) (hne : segments ≠ [])
    (h : ∀ s ∈ segments, IsWhole s) (path : List String) :
    segments.foldl (pushSegment scheme) path = kept path ++ segments.map piece := by
  induction segments generalizing path with
  | nil => exact absurd rfl hne
  | cons s rest ih =>
    obtain ⟨hs, hrest⟩ := List.forall_mem_cons.1 h
    rw [List.foldl_cons, pushSegment_of_isWhole hweb hs]
    cases rest with
    | nil => rfl
    | cons t rest =>
      rw [ih (List.cons_ne_nil t rest) hrest, kept_of_ne_empty hs.piece_ne_empty,
        List.append_assoc]
      rfl

end DashboardRefresh.Url

namespace DashboardRefresh.UrlPath

/-! ## The text of a path -/

/-- What stands between the slashes of a path, behind the first of them. -/
def pieces (path : UrlPath) : List String :=
  ((Text.splitChars '/' path.text.toList).drop 1).map String.ofList

theorem toList_text_segments (parts : List String) :
    (segments parts).text.toList = parts.flatMap ('/' :: ·.toList) := by
  unfold text
  rw [String.toList_join, List.flatMap_map]
  simp

/-- Pieces without slashes are what stands between the slashes in front of them. -/
theorem splitChars_append_flatMap (front : List Char) {parts : List String}
    (h : ∀ p ∈ parts, '/' ∉ p.toList) :
    Text.splitChars '/' (front ++ parts.flatMap ('/' :: ·.toList)) =
      Text.splitChars '/' front ++ parts.map String.toList := by
  simp only [Text.splitChars_eq_splitOn]
  induction parts generalizing front with
  | nil => simp
  | cons p parts ih =>
    obtain ⟨hp, hparts⟩ := List.forall_mem_cons.1 h
    have hfront : front ++ (p :: parts).flatMap ('/' :: ·.toList) =
        (front ++ '/' :: p.toList) ++ parts.flatMap ('/' :: ·.toList) := by
      simp
    rw [hfront, ih _ hparts, List.splitOn_append_cons_self, List.splitOn_eq_singleton hp]
    simp

/-- The last segments of a path are its last pieces, as far as they hold no slash. -/
theorem pieces_append (front : List String) {parts : List String}
    (h : ∀ p ∈ parts, '/' ∉ p.toList) :
    (segments (front ++ parts)).pieces = (segments front).pieces ++ parts := by
  have hne : 1 ≤ (Text.splitChars '/' (front.flatMap ('/' :: ·.toList))).length := by
    rw [Text.splitChars_eq_splitOn]
    exact List.length_pos_of_ne_nil (List.splitOn_ne_nil _ _)
  have hparts : (parts.map String.toList).map String.ofList = parts := by
    rw [List.map_map]
    exact List.map_id'' (fun _ => String.ofList_toList) parts
  unfold pieces
  rw [toList_text_segments, toList_text_segments, List.flatMap_append,
    splitChars_append_flatMap _ h, List.drop_append_of_le_length hne, List.map_append, hparts]

end DashboardRefresh.UrlPath

namespace DashboardRefresh.Url

/-- The texts of URLs with a host that differ in their paths only differ in the texts of these. -/
theorem path_text_of_text {u : Url} {p q : UrlPath} (hhost : u.host ≠ none)
    (h : { u with path := p }.text = { u with path := q }.text) : p.text = q.text := by
  obtain ⟨host, hhost⟩ := Option.ne_none_iff_exists'.1 hhost
  have hauthority (p : UrlPath) : { u with path := p }.authorityText = u.authorityText := by
    unfold authorityText credentialsText
    simp only [hhost]
  have hchars := congrArg String.toList h
  simp only [text, textWithoutFragment, hauthority, String.toList_append, List.append_assoc]
    at hchars
  apply String.toList_inj.1
  simpa using hchars

end DashboardRefresh.Url
