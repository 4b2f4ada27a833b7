import DashboardRefresh.Proofs.Text.Trimming
import DashboardRefresh.Text.Lowercase

/-!
# Small letters

The lower case of a text consists of small letters, which lower case leaves as they are, so that it
is the same in lower case. That no small letter of a run is a capital of another one is a fact about
the tables, found by comparing the runs and not their letters. Blanks and capitals of ASCII have no
part in how a word ends, and so the lower case of a text does not depend on the case of its ASCII
letters.
-/

namespace DashboardRefresh.Text

namespace CharRun

/-- The code points that the run holds are all even or all odd. -/
def hasOneParity (r : CharRun) : Bool := r.step == 2 || r.first == r.last

/-- No letter that the first run gives is one that the second run holds: its letters lie before the
second run or after it, or are even where those of the second run are odd, or the other way. -/
def isApart (r q : CharRun) : Bool :=
  -- The tables are compared by evaluation, which is faster with the operations of `Nat` themselves.
  Nat.blt (r.image + (r.last - r.first)) q.first || Nat.blt q.last r.image ||
    r.hasOneParity && q.hasOneParity && (r.image + q.first) % 2 == 1

theorem mod_two_of_hasOneParity {r : CharRun} {n : Nat} (h : r.hasOneParity) (hn : r.holds n) :
    (n - r.first) % 2 = 0 := by
  simp only [hasOneParity, holds, Bool.or_eq_true, Bool.and_eq_true, decide_eq_true_eq,
    beq_iff_eq] at h hn
  obtain ⟨⟨hfirst, hlast⟩, hstep⟩ := hn
  rcases h with htwo | hsingle
  · rwa [htwo] at hstep
  · omega

theorem not_holds_of_isApart {r q : CharRun} {n : Nat} (h : r.isApart q) (hn : r.holds n) :
    ¬ q.holds (r.image + (n - r.first)) := by
  intro hq
  have hbounds := hn
  have hbounds' := hq
  simp only [isApart, holds, Bool.or_eq_true, Bool.and_eq_true, decide_eq_true_eq, beq_iff_eq,
    Nat.blt_eq] at h hbounds hbounds'
  rcases h with (hbefore | hafter) | ⟨⟨hr, hq'⟩, hodd⟩
  · omega
  · omega
  · have hmod := mod_two_of_hasOneParity hr hn
    have hmod' := mod_two_of_hasOneParity hq' hq
    omega

/-- All code points that the run gives are those of characters. -/
def givesChars (r : CharRun) : Bool :=
  r.image + (r.last - r.first) < 0xD800 ||
    0xDFFF < r.image && r.image + (r.last - r.first) < 0x110000

theorem toNat_image {r : CharRun} {n : Nat} (h : r.givesChars) (hn : r.holds n) :
    (Char.ofNat (r.image + (n - r.first))).toNat = r.image + (n - r.first) := by
  simp only [givesChars, holds, Bool.or_eq_true, Bool.and_eq_true, decide_eq_true_eq,
    beq_iff_eq] at h hn
  have hvalid : (r.image + (n - r.first)).isValidChar := by
    unfold Nat.isValidChar
    omega
  rw [Char.ofNat, dif_pos hvalid]
  rfl

theorem image?_eq_some {runs : List CharRun} {c d : Char} (h : image? runs c = some d) :
    ∃ r ∈ runs, r.holds c.toNat ∧ d = Char.ofNat (r.image + (c.toNat - r.first)) := by
  obtain ⟨r, hr, rfl⟩ := Option.map_eq_some_iff.1 h
  have hholds := List.find?_some (p := fun q : CharRun => q.holds c.toNat) hr
  exact ⟨r, List.mem_of_find?_eq_some hr, hholds, rfl⟩

theorem image?_eq_none {runs : List CharRun} {c : Char} (h : ∀ r ∈ runs, ¬ r.holds c.toNat) :
    image? runs c = none := by
  unfold image?
  rw [List.find?_eq_none.2 h]
  rfl

end CharRun

/-! ## The tables -/

theorem caseRuns_givesChars : ∀ r ∈ caseRuns, r.givesChars := by decide +kernel

theorem caseRuns_isApart : ∀ r ∈ caseRuns, ∀ q ∈ caseRuns, r.isApart q := by
  have hall : caseRuns.all fun r => caseRuns.all r.isApart := by decide +kernel
  intro r hr
  exact List.all_eq_true.1 (List.all_eq_true.1 hall r hr)

/-- What no run gives: the capital that becomes two characters, and the blanks. -/
def gaps : List CharRun := [
  ⟨0x130, 0x130, 1, 0⟩, ⟨9, 13, 1, 0⟩, ⟨0x20, 0x20, 1, 0⟩, ⟨0x85, 0x85, 1, 0⟩, ⟨0xA0, 0xA0, 1, 0⟩,
  ⟨0x1680, 0x1680, 1, 0⟩, ⟨0x2000, 0x200A, 1, 0⟩, ⟨0x2028, 0x2028, 1, 0⟩, ⟨0x2029, 0x2029, 1, 0⟩,
  ⟨0x202F, 0x202F, 1, 0⟩, ⟨0x205F, 0x205F, 1, 0⟩, ⟨0x3000, 0x3000, 1, 0⟩]

theorem caseRuns_isApart_gaps : ∀ r ∈ caseRuns, ∀ q ∈ gaps, r.isApart q := by decide +kernel

theorem exists_gap_of_isBlank {c : Char} (h : isBlank c) : ∃ q ∈ gaps, q.holds c.toNat := by
  simp only [isBlank, Bool.or_eq_true, Bool.and_eq_true, decide_eq_true_eq, beq_iff_eq] at h
  simp only [gaps, List.mem_cons, List.not_mem_nil, or_false, exists_eq_or_imp, exists_eq_left,
    CharRun.holds, Bool.and_eq_true, decide_eq_true_eq, beq_iff_eq]
  omega

/-! ## Letters -/

/-- Lower case leaves the character as it is, wherever it stands. -/
structure IsSmall (c : Char) : Prop where
  ne_sigma : c ≠ 'Σ'
  ne_dotted : c ≠ 'İ'
  smallLetter_eq : smallLetter c = c

/-- The small letter of a character has no other small letter. -/
theorem isSmall_smallLetter {c : Char} (hsigma : c ≠ 'Σ') (hdotted : c ≠ 'İ') :
    IsSmall (smallLetter c) := by
  unfold smallLetter
  cases himage : CharRun.image? caseRuns c with
  | none => exact ⟨hsigma, hdotted, by simp [smallLetter, himage]⟩
  | some d =>
    obtain ⟨r, hr, hholds, rfl⟩ := CharRun.image?_eq_some himage
    have htoNat := CharRun.toNat_image (caseRuns_givesChars r hr) hholds
    have hnone : CharRun.image? caseRuns (Char.ofNat (r.image + (c.toNat - r.first))) = none := by
      refine CharRun.image?_eq_none fun q hq => ?_
      rw [htoNat]
      exact CharRun.not_holds_of_isApart (caseRuns_isApart r hr q hq) hholds
    have hgap := CharRun.not_holds_of_isApart
      (caseRuns_isApart_gaps r hr ⟨0x130, 0x130, 1, 0⟩ List.mem_cons_self) hholds
    rw [Option.getD_some]
    refine ⟨fun heq => ?_, fun heq => ?_, by simp [smallLetter, hnone]⟩
    · -- The capital sigma is held by a run.
      rw [heq] at hnone
      exact absurd hnone (by decide +kernel)
    · rw [← htoNat, heq] at hgap
      exact hgap (by decide)

theorem not_isBlank_smallLetter {c : Char} (h : ¬ isBlank c) : ¬ isBlank (smallLetter c) := by
  unfold smallLetter
  cases himage : CharRun.image? caseRuns c with
  | none => exact h
  | some d =>
    obtain ⟨r, hr, hholds, rfl⟩ := CharRun.image?_eq_some himage
    intro hblank
    obtain ⟨q, hq, hgap⟩ := exists_gap_of_isBlank hblank
    rw [Option.getD_some, CharRun.toNat_image (caseRuns_givesChars r hr) hholds] at hgap
    exact CharRun.not_holds_of_isApart (caseRuns_isApart_gaps r hr q hq) hholds hgap

section Between

variable {before after : List Char} {c : Char}

theorem lowerBetween_ne_nil : lowerBetween before c after ≠ [] := by
  unfold lowerBetween
  split
  · exact List.cons_ne_nil _ _
  · split <;> exact List.cons_ne_nil _ _

theorem isSmall_of_mem_lowerBetween : ∀ d ∈ lowerBetween before c after, IsSmall d := by
  unfold lowerBetween
  split
  · rw [List.forall_mem_singleton]
    split <;> exact ⟨by decide, by decide, by decide +kernel⟩
  · rename_i hsigma
    split
    · rw [List.forall_mem_cons, List.forall_mem_singleton]
      exact ⟨⟨by decide, by decide, by decide +kernel⟩, ⟨by decide, by decide, by decide +kernel⟩⟩
    · rename_i hdotted
      rw [List.forall_mem_singleton]
      exact isSmall_smallLetter hsigma hdotted

theorem not_isBlank_of_mem_lowerBetween (h : ¬ isBlank c) :
    ∀ d ∈ lowerBetween before c after, ¬ isBlank d := by
  unfold lowerBetween
  split
  · rw [List.forall_mem_singleton]
    split <;> decide
  · split
    · rw [List.forall_mem_cons, List.forall_mem_singleton]
      exact ⟨by decide, by decide⟩
    · rw [List.forall_mem_singleton]
      exact not_isBlank_smallLetter h

theorem IsSmall.lowerBetween_eq (h : IsSmall c) : lowerBetween before c after = [c] := by
  unfold lowerBetween
  rw [if_neg h.ne_sigma, if_neg h.ne_dotted, h.smallLetter_eq]

end Between

/-! ## Texts -/

variable {before cs : List Char}

theorem isSmall_of_mem_lowerFrom : ∀ d ∈ lowerFrom before cs, IsSmall d := by
  induction cs generalizing before with
  | nil => exact fun _ hd => absurd hd List.not_mem_nil
  | cons c cs ih =>
    unfold lowerFrom
    rw [List.forall_mem_append]
    exact ⟨isSmall_of_mem_lowerBetween, ih⟩

theorem lowerFrom_eq_self (h : ∀ c ∈ cs, IsSmall c) : lowerFrom before cs = cs := by
  induction cs generalizing before with
  | nil => rfl
  | cons c cs ih =>
    obtain ⟨hc, hcs⟩ := List.forall_mem_cons.1 h
    rw [lowerFrom, hc.lowerBetween_eq, ih hcs]
    rfl

theorem lowerChars_eq_self (h : ∀ c ∈ cs, IsSmall c) : lowerChars cs = cs := lowerFrom_eq_self h

theorem lowerFrom_eq_nil_iff : lowerFrom before cs = [] ↔ cs = [] := by
  cases cs with
  | nil => exact ⟨fun _ => rfl, fun _ => rfl⟩
  | cons c cs => simp [lowerFrom, lowerBetween_ne_nil]

/-- A text whose ends are no blanks has none there in lower case either. -/
theorem IsTrimmed.lowerChars (h : IsTrimmed cs) : IsTrimmed (lowerChars cs) where
  head? := by
    cases cs with
    | nil => exact fun _ hd => absurd hd (by simp [Text.lowerChars, lowerFrom])
    | cons c cs =>
      intro d hd
      rw [Text.lowerChars, lowerFrom, List.head?_append_of_ne_nil _ lowerBetween_ne_nil] at hd
      exact not_isBlank_of_mem_lowerBetween (h.head? c rfl) d (List.mem_of_mem_head? hd)
  getLast? := by
    have hlast (before cs : List Char) (h : ∀ c ∈ cs.getLast?, ¬ isBlank c) :
        ∀ d ∈ (lowerFrom before cs).getLast?, ¬ isBlank d := by
      induction cs generalizing before with
      | nil => exact fun _ hd => absurd hd (by simp [lowerFrom])
      | cons c cs ih =>
        intro d hd
        rw [lowerFrom] at hd
        rcases eq_or_ne cs [] with rfl | hne
        · rw [lowerFrom, List.append_nil] at hd
          exact not_isBlank_of_mem_lowerBetween (h c rfl) d (List.mem_of_mem_getLast? hd)
        · rw [List.getLast?_append_of_ne_nil _ (mt lowerFrom_eq_nil_iff.1 hne)] at hd
          refine ih (c :: before) (fun e he => h e ?_) d hd
          rwa [List.getLast?_cons_of_ne_nil hne]
    exact hlast [] cs h.getLast?

/-! ## Capitals of ASCII -/

/-- A character and the small letter of ASCII for it are the same to lower case and to trimming. -/
structure ActsAlike (c d : Char) : Prop where
  isBlank_eq : isBlank d = isBlank c
  isCased_eq : inRanges casedRanges d = inRanges casedRanges c
  isCaseIgnorable_eq : isCaseIgnorable d = isCaseIgnorable c
  sigma_iff : d = 'Σ' ↔ c = 'Σ'
  dotted_iff : d = 'İ' ↔ c = 'İ'
  smallLetter_eq : smallLetter d = smallLetter c

theorem actsAlike_toLower (c : Char) : ActsAlike c c.toLower := by
  have hcapital : ∀ n < 26, let c := Char.ofNat (65 + n)
      isBlank c.toLower = isBlank c ∧
        inRanges casedRanges c.toLower = inRanges casedRanges c ∧
        isCaseIgnorable c.toLower = isCaseIgnorable c ∧ (c.toLower = 'Σ' ↔ c = 'Σ') ∧
        (c.toLower = 'İ' ↔ c = 'İ') ∧ smallLetter c.toLower = smallLetter c := by
    decide +kernel
  by_cases hupper : 65 ≤ c.toNat ∧ c.toNat ≤ 90
  · obtain ⟨hblank, hcased, hignorable, hsigma, hdotted, hsmall⟩ :=
      hcapital (c.toNat - 65) (by omega)
    have hc : Char.ofNat (65 + (c.toNat - 65)) = c := by
      rw [Nat.add_sub_cancel' hupper.1, Char.ofNat_toNat]
    rw [hc] at hblank hcased hignorable hsigma hdotted hsmall
    exact ⟨hblank, hcased, hignorable, hsigma, hdotted, hsmall⟩
  · have hsame : c.toLower = c := dif_neg hupper
    rw [hsame]
    exact ⟨rfl, rfl, rfl, Iff.rfl, Iff.rfl, rfl⟩

theorem beginsCased_map_toLower (cs : List Char) :
    beginsCased (cs.map Char.toLower) = beginsCased cs := by
  induction cs with
  | nil => rfl
  | cons c cs ih =>
    have halike := actsAlike_toLower c
    unfold beginsCased at ih ⊢
    rw [List.map_cons, List.dropWhile_cons, List.dropWhile_cons, halike.isCaseIgnorable_eq]
    cases isCaseIgnorable c with
    | true => exact ih
    | false => exact halike.isCased_eq

theorem lowerFrom_map_toLower (before cs : List Char) :
    lowerFrom (before.map Char.toLower) (cs.map Char.toLower) = lowerFrom before cs := by
  induction cs generalizing before with
  | nil => rfl
  | cons c cs ih =>
    have halike := actsAlike_toLower c
    rw [List.map_cons, lowerFrom, lowerFrom, ← ih (c :: before)]
    congr 1
    unfold lowerBetween
    rw [beginsCased_map_toLower, beginsCased_map_toLower, halike.smallLetter_eq]
    simp only [halike.sigma_iff, halike.dotted_iff]

/-- The lower case of a text does not depend on the case of its ASCII letters. -/
theorem lowerChars_map_toLower (cs : List Char) :
    lowerChars (cs.map Char.toLower) = lowerChars cs := lowerFrom_map_toLower [] cs

theorem trimChars_map_toLower (cs : List Char) :
    trimChars (cs.map Char.toLower) = (trimChars cs).map Char.toLower := by
  have hblank : isBlank ∘ Char.toLower = isBlank := by
    funext c
    exact (actsAlike_toLower c).isBlank_eq
  unfold trimChars trimEndChars
  rw [List.dropWhile_map, hblank, ← List.map_reverse, List.dropWhile_map, hblank, List.map_reverse]

end DashboardRefresh.Text
