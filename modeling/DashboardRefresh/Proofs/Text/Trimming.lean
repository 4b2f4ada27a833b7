import DashboardRefresh.Text.Whitespace
import Mathlib.Data.List.DropRight

/-!
# Texts without blanks at their ends

Trimming takes away blanks and nothing else: what is left begins and ends with characters that are
no blanks, and stands between two runs of blanks in the text. So blanks around a text have no part
in what trimming leaves of it, and only a text of nothing but blanks leaves nothing.
-/

namespace DashboardRefresh.Text

/-- There is no blank at either end. -/
structure IsTrimmed (cs : List Char) : Prop where
  head? : ∀ c ∈ cs.head?, ¬ isBlank c
  getLast? : ∀ c ∈ cs.getLast?, ¬ isBlank c

variable {cs : List Char}

/-- All that the end of a text loses is blanks. -/
theorem exists_trimEndChars_append (cs : List Char) :
    ∃ blanks, (∀ b ∈ blanks, isBlank b) ∧ trimEndChars cs ++ blanks = cs :=
  ⟨cs.rtakeWhile isBlank, fun _ => List.mem_rtakeWhile_imp, cs.rdropWhile_append_rtakeWhile⟩

theorem not_isBlank_getLast?_trimEndChars (cs : List Char) :
    ∀ c ∈ (trimEndChars cs).getLast?, ¬ isBlank c := by
  intro c hc
  obtain ⟨hne, rfl⟩ := List.mem_getLast?_eq_getLast hc
  exact List.rdropWhile_last_not isBlank cs hne

theorem trimEndChars_eq_self (h : ∀ c ∈ cs.getLast?, ¬ isBlank c) : trimEndChars cs = cs :=
  List.rdropWhile_eq_self_iff.2 fun hne => h _ (List.getLast?_eq_getLast_of_ne_nil hne)

/-- Blanks after a text do not change what is left of it. -/
theorem trimEndChars_append {blanks : List Char} (hblanks : ∀ b ∈ blanks, isBlank b) :
    trimEndChars (cs ++ blanks) = trimEndChars cs := by
  unfold trimEndChars
  rw [List.reverse_append, List.dropWhile_append_of_pos]
  intro b hb
  exact hblanks b (List.mem_reverse.1 hb)

/-- All that a text loses is blanks before and blanks after it. -/
theorem exists_trimChars_between (cs : List Char) :
    ∃ lead trail, (∀ b ∈ lead, isBlank b) ∧ (∀ b ∈ trail, isBlank b) ∧
      lead ++ trimChars cs ++ trail = cs := by
  obtain ⟨trail, htrail, hcut⟩ := exists_trimEndChars_append (cs.dropWhile isBlank)
  refine ⟨cs.takeWhile isBlank, trail, fun _ => List.mem_takeWhile_imp, htrail, ?_⟩
  rw [List.append_assoc, trimChars, hcut, List.takeWhile_append_dropWhile]

theorem isTrimmed_trimChars (cs : List Char) : IsTrimmed (trimChars cs) where
  head? c hc := by
    obtain ⟨trail, _, hcut⟩ := exists_trimEndChars_append (cs.dropWhile isBlank)
    have hhead : c ∈ (cs.dropWhile isBlank).head? := by
      rw [← hcut, List.head?_append]
      rw [trimChars] at hc
      simp [Option.mem_def.1 hc]
    have hnot := List.head?_dropWhile_not isBlank cs
    rw [Option.mem_def.1 hhead] at hnot
    simpa using hnot
  getLast? := not_isBlank_getLast?_trimEndChars _

theorem IsTrimmed.trimChars_eq (h : IsTrimmed cs) : trimChars cs = cs := by
  have hdrop : cs.dropWhile isBlank = cs := by
    cases cs with
    | nil => rfl
    | cons c cs => exact List.dropWhile_cons_of_neg (h.head? c rfl)
  rw [trimChars, hdrop]
  exact trimEndChars_eq_self h.getLast?

/-- Blanks around a text do not change what is left of it. -/
theorem trimChars_between {lead trail : List Char} (hlead : ∀ b ∈ lead, isBlank b)
    (htrail : ∀ b ∈ trail, isBlank b) : trimChars (lead ++ cs ++ trail) = trimChars cs := by
  unfold trimChars
  rw [List.append_assoc, List.dropWhile_append_of_pos hlead, List.dropWhile_append]
  split
  · rename_i hall
    rw [List.isEmpty_iff.1 hall, List.dropWhile_eq_nil_iff.2 htrail]
  · exact trimEndChars_append htrail

theorem trimChars_eq_nil_iff : trimChars cs = [] ↔ ∀ c ∈ cs, isBlank c := by
  constructor
  · intro hnil
    obtain ⟨lead, trail, hlead, htrail, hcs⟩ := exists_trimChars_between cs
    rw [hnil, List.append_nil] at hcs
    rw [← hcs]
    exact List.forall_mem_append.2 ⟨hlead, htrail⟩
  · intro hall
    rw [trimChars, List.dropWhile_eq_nil_iff.2 hall]
    rfl

end DashboardRefresh.Text
