/-!
# Splitting text

Texts cut at a separating character. Cutting at every separator gives one piece more than there are
separators, so the empty text is one empty piece.
-/

namespace DashboardRefresh.Text

/-- The pieces of `cs` between the separators `sep`. -/
def splitChars (sep : Char) : List Char → List (List Char)
  | [] => [[]]
  | c :: cs =>
    if c = sep then [] :: splitChars sep cs
    else match splitChars sep cs with
      | [] => [[c]]
      | piece :: pieces => (c :: piece) :: pieces

/-- What stands before and after the first separator, if there is one. -/
def cutChars? (sep : Char) : List Char → Option (List Char × List Char)
  | [] => none
  | c :: cs =>
    if c = sep then some ([], cs) else (cutChars? sep cs).map fun p => (c :: p.1, p.2)

/-- What stands before and after the first separator, if there is one. -/
def cut? (sep : Char) (s : String) : Option (String × String) :=
  (cutChars? sep s.toList).map fun p => (String.ofList p.1, String.ofList p.2)

theorem cutChars?_eq_some {sep : Char} {cs before after : List Char}
    (h : cutChars? sep cs = some (before, after)) : cs = before ++ sep :: after := by
  induction cs generalizing before with
  | nil => simp [cutChars?] at h
  | cons c cs ih =>
    rw [cutChars?] at h
    split at h
    · simp_all
    · simp only [Option.map_eq_some_iff, Prod.mk.injEq] at h
      obtain ⟨p, hp, rfl, rfl⟩ := h
      simp [ih hp]

theorem not_mem_of_cutChars? {sep : Char} {cs before after : List Char}
    (h : cutChars? sep cs = some (before, after)) : sep ∉ before := by
  induction cs generalizing before with
  | nil => simp [cutChars?] at h
  | cons c cs ih =>
    rw [cutChars?] at h
    split at h
    · simp_all
    · rename_i hsep
      simp only [Option.map_eq_some_iff, Prod.mk.injEq] at h
      obtain ⟨p, hp, rfl, rfl⟩ := h
      exact List.not_mem_cons_of_ne_of_not_mem (Ne.symm hsep) (ih hp)

theorem cutChars?_append {sep : Char} {before : List Char} (after : List Char)
    (h : sep ∉ before) : cutChars? sep (before ++ sep :: after) = some (before, after) := by
  induction before with
  | nil => simp [cutChars?]
  | cons c before ih =>
    rw [List.mem_cons, not_or] at h
    rw [List.cons_append, cutChars?, if_neg (Ne.symm h.1), ih h.2]
    rfl

theorem cutChars?_eq_none {sep : Char} {cs : List Char} (h : sep ∉ cs) :
    cutChars? sep cs = none := by
  induction cs with
  | nil => rfl
  | cons c cs ih =>
    rw [List.mem_cons, not_or] at h
    rw [cutChars?, if_neg (Ne.symm h.1), ih h.2]
    rfl

theorem cut?_eq_some_iff {sep : Char} {s before after : String} :
    cut? sep s = some (before, after) ↔
      s.toList = before.toList ++ sep :: after.toList ∧ sep ∉ before.toList := by
  unfold cut?
  constructor
  · intro h
    obtain ⟨p, hp, hparts⟩ := Option.map_eq_some_iff.1 h
    obtain ⟨rfl, rfl⟩ := Prod.mk.inj hparts
    rw [String.toList_ofList, String.toList_ofList]
    exact ⟨cutChars?_eq_some hp, not_mem_of_cutChars? hp⟩
  · rintro ⟨hs, hbefore⟩
    rw [hs, cutChars?_append after.toList hbefore, Option.map_some, String.ofList_toList,
      String.ofList_toList]

theorem cut?_eq_none_iff {sep : Char} {s : String} : cut? sep s = none ↔ sep ∉ s.toList := by
  unfold cut?
  rw [Option.map_eq_none_iff]
  constructor
  · intro hnone hmem
    obtain ⟨before, after, hs, hbefore⟩ := List.eq_append_cons_of_mem hmem
    rw [hs, cutChars?_append after hbefore] at hnone
    cases hnone
  · exact cutChars?_eq_none

theorem splitChars_eq_splitOn (sep : Char) (cs : List Char) :
    splitChars sep cs = cs.splitOn sep := by
  induction cs with
  | nil => rfl
  | cons c cs ih =>
    rw [List.splitOn_cons_eq_if_modifyHead, splitChars, ih]
    by_cases hsep : c = sep
    · rw [if_pos hsep, if_pos (beq_iff_eq.2 hsep)]
    · rw [if_neg hsep, if_neg (mt beq_iff_eq.1 hsep)]
      cases hpieces : cs.splitOn sep with
      | nil => exact absurd hpieces (List.splitOn_ne_nil sep cs)
      | cons => rfl

theorem not_mem_of_mem_splitChars {sep : Char} {cs piece : List Char}
    (h : piece ∈ splitChars sep cs) : sep ∉ piece := by
  induction cs generalizing piece with
  | nil =>
    rw [List.mem_singleton.1 h]
    exact List.not_mem_nil
  | cons c cs ih =>
    rw [splitChars] at h
    split at h
    · rcases List.mem_cons.1 h with rfl | htail
      · exact List.not_mem_nil
      · exact ih htail
    · rename_i hsep
      split at h
      · rw [List.mem_singleton.1 h]
        simpa using Ne.symm hsep
      · rename_i head tail hsplit
        rcases List.mem_cons.1 h with rfl | htail
        · have hhead := ih (hsplit ▸ List.mem_cons_self)
          exact List.not_mem_cons_of_ne_of_not_mem (Ne.symm hsep) hhead
        · exact ih (hsplit ▸ List.mem_cons_of_mem _ htail)

end DashboardRefresh.Text
