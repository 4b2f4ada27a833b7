import DashboardRefresh.Proofs.Board.UpdateCycle
import DashboardRefresh.Proofs.Text.Trimming
import DashboardRefresh.Text.Slice

/-!
# Excerpts

The excerpt of a text is cut between two of its characters, at the last place that the limit leaves.
A search for that place, from the limit downwards over the positions of bytes, always finds one at
which the text can be cut, so that an excerpt never fails. What is lost before the limit is blanks,
and up to three bytes of the character in which the limit lies. The error for an answer with a
status other than 200 quotes the answer by its excerpt.
-/

namespace DashboardRefresh

open Text

/-! ## Bytes -/

theorem byteLength_append (cs ds : List Char) :
    byteLength (cs ++ ds) = byteLength cs + byteLength ds := by
  induction cs with
  | nil => exact (Nat.zero_add _).symm
  | cons c cs ih => rw [List.cons_append, byteLength, byteLength, ih, Nat.add_assoc]

theorem byteLength_le_of_prefix {cs ds : List Char} (h : cs <+: ds) :
    byteLength cs ≤ byteLength ds := by
  obtain ⟨rest, rfl⟩ := h
  rw [byteLength_append]
  exact Nat.le_add_right _ _

/-- The bytes of a string are those of its characters. -/
theorem utf8ByteSize_ofList (cs : List Char) :
    (String.ofList cs).utf8ByteSize = byteLength cs := by
  induction cs with
  | nil => rfl
  | cons c cs ih =>
    have hcons : String.ofList (c :: cs) = String.singleton c ++ String.ofList cs := by
      rw [String.singleton_eq_ofList, ← String.ofList_append]
      rfl
    rw [hcons, String.utf8ByteSize_append, ih, String.utf8ByteSize_singleton, byteLength]

namespace Text

/-- The first `n` bytes of a text are a text if they are the bytes of its first characters. -/
theorem takeBytes?_eq_some_iff {n : Nat} {cs first : List Char} :
    takeBytes? n cs = some first ↔ first <+: cs ∧ byteLength first = n := by
  induction cs generalizing n first with
  | nil =>
    cases n with
    | zero => simp +contextual [takeBytes?, eq_comm, byteLength]
    | succ n => simp +contextual [takeBytes?, byteLength]
  | cons c cs ih =>
    have hpos := c.utf8Size_pos
    cases n with
    | zero =>
      cases first with
      | nil => simp [takeBytes?, byteLength]
      | cons d first =>
        have hpos := d.utf8Size_pos
        simp only [takeBytes?, byteLength, Option.some.injEq, reduceCtorEq, false_iff]
        omega
    | succ n =>
      cases first with
      | nil =>
        simp only [takeBytes?, byteLength]
        split <;> simp
      | cons d first =>
        rw [takeBytes?, byteLength, List.cons_prefix_cons]
        split
        · simp only [Option.map_eq_some_iff, List.cons.injEq]
          constructor
          · rintro ⟨rest, hrest, rfl, rfl⟩
            obtain ⟨hbegin, hlength⟩ := ih.1 hrest
            exact ⟨⟨rfl, hbegin⟩, by omega⟩
          · rintro ⟨⟨rfl, hbegin⟩, hlength⟩
            exact ⟨first, ih.2 ⟨hbegin, by omega⟩, rfl, rfl⟩
        · simp only [reduceCtorEq, false_iff, not_and, and_imp]
          rintro rfl _
          omega

/-- Whether a text can be cut at a position. -/
def isBoundary (cs : List Char) (n : Nat) : Bool := (takeBytes? n cs).isSome

/-- The last position up to a limit at which a text can be cut, looked for from the limit
downwards; position 0 if there is none. -/
def lastBoundary (cs : List Char) : Nat → Nat
  | 0 => 0
  | limit + 1 => if isBoundary cs (limit + 1) then limit + 1 else lastBoundary cs limit

theorem isBoundary_iff {cs : List Char} {n : Nat} :
    isBoundary cs n ↔ ∃ first, first <+: cs ∧ byteLength first = n := by
  rw [isBoundary, Option.isSome_iff_exists]
  exact exists_congr fun _ => takeBytes?_eq_some_iff

/-- The search stops at the first boundary that it meets. -/
theorem lastBoundary_eq {cs : List Char} {n limit : Nat} (hn : isBoundary cs n) (hle : n ≤ limit)
    (hnone : ∀ m, n < m → m ≤ limit → ¬ isBoundary cs m) : lastBoundary cs limit = n := by
  induction limit with
  | zero => exact (Nat.le_zero.1 hle).symm
  | succ limit ih =>
    unfold lastBoundary
    rcases Nat.eq_or_lt_of_le hle with rfl | hlt
    · rw [if_pos hn]
    · rw [if_neg (hnone _ hlt le_rfl)]
      exact ih (Nat.le_of_lt_succ hlt) fun m hm hmle => hnone m hm (Nat.le_succ_of_le hmle)

end Text

/-! ## Longest beginnings -/

/-- `kept` is the longest beginning of a text that has at most `max` bytes. -/
structure IsLongestWithin (max : Nat) (text kept : List Char) : Prop where
  isPrefix : kept <+: text
  length_le : byteLength kept ≤ max
  longest : ∀ other, other <+: text → byteLength other ≤ max → other <+: kept

theorem prefixWithin_isLongestWithin (max : Nat) (cs : List Char) :
    IsLongestWithin max cs (prefixWithin max cs) := by
  induction cs generalizing max with
  | nil => exact ⟨List.nil_prefix, Nat.zero_le _, fun _ h _ => h⟩
  | cons c cs ih =>
    unfold prefixWithin
    split
    · rename_i hfits
      obtain ⟨hbegin, hlength, hlongest⟩ := ih (max - c.utf8Size)
      refine ⟨List.cons_prefix_cons.2 ⟨rfl, hbegin⟩, by rw [byteLength]; omega, ?_⟩
      intro other hother hle
      cases other with
      | nil => exact List.nil_prefix
      | cons d other =>
        obtain ⟨rfl, hrest⟩ := List.cons_prefix_cons.1 hother
        rw [byteLength] at hle
        exact List.cons_prefix_cons.2 ⟨rfl, hlongest other hrest (by omega)⟩
    · rename_i hover
      refine ⟨List.nil_prefix, Nat.zero_le _, ?_⟩
      intro other hother hle
      cases other with
      | nil => exact List.nil_prefix
      | cons d other =>
        obtain ⟨rfl, _⟩ := List.cons_prefix_cons.1 hother
        rw [byteLength] at hle
        omega

namespace IsLongestWithin

variable {max : Nat} {text kept : List Char}

/-- The character after the longest beginning is the one in which the limit lies. -/
theorem exists_cut (h : IsLongestWithin max text kept) (hover : max < byteLength text) :
    ∃ c rest, text = kept ++ c :: rest ∧ max < byteLength kept + c.utf8Size := by
  obtain ⟨rest, rfl⟩ := h.isPrefix
  cases rest with
  | nil =>
    have hle := h.length_le
    rw [List.append_nil] at hover
    omega
  | cons c rest =>
    refine ⟨c, rest, rfl, ?_⟩
    by_contra hfits
    have hmore : kept ++ [c] <+: kept := by
      refine h.longest _ ⟨rest, by simp⟩ ?_
      rw [byteLength_append, byteLength, byteLength]
      omega
    have hlength := hmore.length_le
    rw [List.length_append, List.length_singleton] at hlength
    omega

/-- The search from the limit downwards ends with the longest beginning. -/
theorem lastBoundary_eq (h : IsLongestWithin max text kept) :
    lastBoundary text max = byteLength kept := by
  refine Text.lastBoundary_eq (isBoundary_iff.2 ⟨kept, h.isPrefix, rfl⟩) h.length_le ?_
  intro m hm hmle hboundary
  obtain ⟨other, hother, rfl⟩ := isBoundary_iff.1 hboundary
  have hle := byteLength_le_of_prefix (h.longest other hother hmle)
  omega

end IsLongestWithin

/-! ## Excerpts -/

/-- The excerpt by positions: a text that is too long is cut at the last boundary up to the limit.
There is none if the text cannot be cut at the position that is found. -/
def excerptAt? (max : Nat) (cs : List Char) : Option (List Char) :=
  let trimmed := trimChars cs
  if byteLength trimmed ≤ max then some trimmed
  else (takeBytes? (lastBoundary trimmed max) trimmed).map (trimEndChars · ++ ['.', '.', '.'])

/-- The search finds a place to cut, and the excerpt is cut there. -/
theorem excerptAt?_eq (max : Nat) (cs : List Char) :
    excerptAt? max cs = some (excerpt max cs) := by
  have hlongest := prefixWithin_isLongestWithin max (trimChars cs)
  have hcut : takeBytes? (lastBoundary (trimChars cs) max) (trimChars cs) =
      some (prefixWithin max (trimChars cs)) := by
    rw [hlongest.lastBoundary_eq]
    exact takeBytes?_eq_some_iff.2 ⟨hlongest.isPrefix, rfl⟩
  unfold excerptAt? excerpt
  dsimp only
  split
  · rfl
  · rw [hcut]
    rfl

/-- `shown` is a text that has been cut at a limit and marked: the longest beginning within the
limit, without the blanks at its end. The limit lies in the character after it. -/
def IsCutAt (max : Nat) (text shown : List Char) : Prop :=
  ∃ kept blanks c rest, text = kept ++ blanks ++ c :: rest ∧
    IsLongestWithin max text (kept ++ blanks) ∧ max < byteLength (kept ++ blanks) + c.utf8Size ∧
    max < byteLength (kept ++ blanks) + 4 ∧ (∀ b ∈ blanks, isBlank b) ∧
    (∀ k ∈ kept.getLast?, ¬ isBlank k) ∧ shown = kept ++ ['.', '.', '.']

/-- `shown` is the excerpt of a text: the text without the blanks at its ends, and cut if that is
longer than the limit. -/
def IsExcerpt (max : Nat) (text shown : List Char) : Prop :=
  ∃ lead trimmed trail, text = lead ++ trimmed ++ trail ∧ (∀ b ∈ lead, isBlank b) ∧
    (∀ b ∈ trail, isBlank b) ∧ IsTrimmed trimmed ∧
    (byteLength trimmed ≤ max → shown = trimmed) ∧
    (max < byteLength trimmed → IsCutAt max trimmed shown)

theorem isCutAt_prefixWithin {max : Nat} {text : List Char} (hover : max < byteLength text) :
    IsCutAt max text (trimEndChars (prefixWithin max text) ++ ['.', '.', '.']) := by
  have hlongest := prefixWithin_isLongestWithin max text
  obtain ⟨c, rest, htext, hcut⟩ := hlongest.exists_cut hover
  obtain ⟨blanks, hblanks, hkept⟩ := exists_trimEndChars_append (prefixWithin max text)
  have hsize := c.utf8Size_le_four
  refine ⟨_, blanks, c, rest, ?_, ?_, ?_, ?_, hblanks,
    not_isBlank_getLast?_trimEndChars _, rfl⟩ <;> rw [hkept]
  · exact htext
  · exact hlongest
  · exact hcut
  · omega

theorem excerpt_isExcerpt (max : Nat) (cs : List Char) : IsExcerpt max cs (excerpt max cs) := by
  obtain ⟨lead, trail, hlead, htrail, hcs⟩ := exists_trimChars_between cs
  refine ⟨lead, trimChars cs, trail, hcs.symm, hlead, htrail, isTrimmed_trimChars cs,
    fun hle => ?_, fun hover => ?_⟩ <;> unfold excerpt <;> dsimp only
  · rw [if_pos hle]
  · rw [if_neg (Nat.not_le.2 hover)]
    exact isCutAt_prefixWithin hover

theorem IsExcerpt.byteLength_le {max : Nat} {text shown : List Char}
    (h : IsExcerpt max text shown) : byteLength shown ≤ max + 3 := by
  obtain ⟨_, trimmed, _, _, _, _, _, hwhole, hcut⟩ := h
  rcases Nat.lt_or_ge max (byteLength trimmed) with hover | hle
  · obtain ⟨kept, blanks, _, _, _, hlongest, _, _, _, _, rfl⟩ := hcut hover
    have hkept := hlongest.length_le
    rw [byteLength_append] at hkept ⊢
    have hmark : byteLength ['.', '.', '.'] = 3 := rfl
    omega
  · rw [hwhole hle]
    omega

/-! ## Errors of custom APIs -/

namespace ApiConfig

/-- The request of the API gets an answer: it can be made and sent, the network has a response, and
the update has not been given up before. If it is cancelled in the millisecond of its start, that is
left to chance. -/
structure IsAnswered (api : ApiConfig) (s : Surroundings) (answerCounts : Bool) (r : Request)
    (status : Nat) (body : List UInt8) : Prop where
  request_eq : api.request s.requestTimeout = .ok r
  isSendable : r.url.isSendable
  network_eq : s.network r = .response status body
  notGivenUp : s.cancellation = .never ∨
    ∃ millis, s.cancellation = .atMillis millis ∧ (0 < millis ∨ answerCounts)

variable {api : ApiConfig} {s : Surroundings} {answerCounts : Bool} {r : Request} {status : Nat}
  {body : List UInt8}

/-- The error of an answer with some status, which quotes the answer. -/
def statusError (r : Request) (status : Nat) (body : List UInt8) : FetchError :=
  .status status r.url.text (String.ofList (excerpt 256 (Text.ofMarked body).toList))

theorem IsAnswered.fetch_eq (h : api.IsAnswered s answerCounts r status body)
    (hstatus : status ≠ 200) :
    api.fetch s = ⟨.error (statusError r status body), some r, 0, true⟩ := by
  unfold fetch
  rw [h.request_eq]
  change (r.fetch s.network).map _ = _
  unfold Request.fetch Request.send
  rw [if_pos h.isSendable, h.network_eq]
  simp [Attempt.whole, Attempt.map, Except.map, readAnswer, hstatus, statusError, excerptLimit]

theorem IsAnswered.outcome_eq (h : api.IsAnswered s answerCounts r status body)
    (hstatus : status ≠ 200) (document : Option Json) :
    (Content.apiCycle api document s answerCounts).outcome =
      .totalFailure (statusError r status body) := by
  unfold Content.apiCycle
  rw [h.fetch_eq hstatus]
  rcases h.notGivenUp with hnever | ⟨millis, hmillis, hcounts⟩
  · rw [hnever]
    rfl
  · rw [hmillis]
    rcases hcounts with hlater | hcounts
    · simp [hlater.ne', Content.fetchedCycle, Except.map, Outcome.ofResult, statusError,
        FetchError.isPartial]
    · simp [hcounts, Content.fetchedCycle, Except.map, Outcome.ofResult, statusError,
        FetchError.isPartial]

end ApiConfig

/-- An excerpt never fails, and is the text without the blanks at its ends, cut if that has more
bytes than the limit: then it is the longest beginning within the limit, without blanks at its end
and with a mark. So it has at most three bytes more than the limit. The error that a custom API
records for an answer with a status other than 200 quotes the excerpt of the answer of 256 bytes. -/
theorem excerpt_quotes_beginning :
    (∀ max text, excerptAt? max text = some (excerpt max text) ∧
      IsExcerpt max text (excerpt max text) ∧
      (String.ofList (excerpt max text)).utf8ByteSize ≤ max + 3) ∧
    ∀ (l : Leaf) (api : ApiConfig) (document : Option Json) (s : Surroundings) (r : Request)
      (status : Nat) (body : List UInt8), l.content = .customApi api document →
      api.IsAnswered s (s.answerCounts l.base.id) r status body → status ≠ 200 →
      (Content.apiCycle api document s (s.answerCounts l.base.id)).outcome =
          .totalFailure (ApiConfig.statusError r status body) ∧
        (∀ now, s.clock.read = .ok now →
          (l.update s).leaf.base.refresh.lastError.map (·.message) =
            some ("unexpected status code " ++ toString status ++ " from " ++ r.url.text ++
              ", response: " ++
              String.ofList (excerpt 256 (Text.ofMarked body).toList))) := by
  refine ⟨fun max text => ⟨excerptAt?_eq max text, excerpt_isExcerpt max text, ?_⟩, ?_⟩
  · rw [utf8ByteSize_ofList]
    exact (excerpt_isExcerpt max text).byteLength_le
  · intro l api document s r status body hcontent hanswered hstatus
    have houtcome := hanswered.outcome_eq hstatus document
    refine ⟨houtcome, fun now hread => ?_⟩
    rw [Leaf.update_of_customApi hcontent]
    unfold Leaf.finish
    rw [hread]
    dsimp only
    rw [houtcome, RefreshState.report_lastError]
    rfl

/-- The limit lies in the second character, which is lost with all that follows it. -/
example : excerpt 2 "héllo wörld".toList = "h...".toList := by decide +kernel

/-- The text of a page that is not found, with blanks around it. -/
def notFoundPage : List UInt8 := "  not found\n".toUTF8.toList

/-- The page is quoted without the blanks. -/
theorem excerpt_quotes_beginning_notFound :
    ∃ r, ApiConfig.IsAnswered ⟨"http://a.test", [], none⟩
        (Leaf.answeredAtEpoch (.response 404 notFoundPage)) true r 404 notFoundPage ∧
      (Leaf.newFeed.update (Leaf.answeredAtEpoch (.response 404
          notFoundPage))).leaf.base.refresh.lastError.map (·.message) =
        some "unexpected status code 404 from http://a.test/, response: not found" := by
  obtain ⟨r, hr, hsendable, hurl⟩ : ∃ r,
      ApiConfig.request ⟨"http://a.test", [], none⟩ (.ofSeconds 10) = .ok r ∧
        r.url.isSendable ∧ r.url.text = "http://a.test/" :=
    ⟨_, rfl, by decide +kernel, by decide +kernel⟩
  have hanswered : ApiConfig.IsAnswered ⟨"http://a.test", [], none⟩
      (Leaf.answeredAtEpoch (.response 404 notFoundPage)) true r 404 notFoundPage :=
    ⟨hr, hsendable, rfl, .inl rfl⟩
  have hquoted : String.ofList (excerpt 256 (Text.ofMarked notFoundPage).toList) = "not found" := by
    decide +kernel
  obtain ⟨_, hmessage⟩ :=
    excerpt_quotes_beginning.2 Leaf.newFeed _ none _ r 404 notFoundPage rfl hanswered (by decide)
  refine ⟨r, hanswered, (hmessage .epoch rfl).trans ?_⟩
  rw [hurl, hquoted]
  rfl

end DashboardRefresh
