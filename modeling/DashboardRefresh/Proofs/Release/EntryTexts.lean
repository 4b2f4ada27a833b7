import DashboardRefresh.Proofs.Release.EntryGrammar

/-!
# The texts of repository entries

An entry is written with its source in front. The text that it was read from is this one, or the
path alone if the source is the default, and both are read as the entry again. So an entry has one
text up to the default source in front, even if its path holds colons or begins with the name of a
source.
-/

namespace DashboardRefresh

namespace ReleaseEntry

/-- The text of an entry, with its source in front. -/
def text (e : ReleaseEntry) : String := e.source.name ++ ":" ++ e.repository

/-- The texts are equal, or one of them is the other one with the default source in front. -/
def SameUpToDefault (s t : String) : Prop := s = t ∨ s = "github:" ++ t ∨ t = "github:" ++ s

variable {s t : String} {e : ReleaseEntry}

theorem name_github_colon : ReleaseSource.github.name ++ ":" = "github:" := by decide

theorem text_of_github (hsource : e.source = .github) : e.text = "github:" ++ e.repository := by
  unfold text
  rw [hsource, name_github_colon]

/-- The text that an entry was read from has its source in front, or the default and none. -/
theorem eq_text_or_of_parse (h : parse s = .ok e) :
    s = e.text ∨ e.source = .github ∧ s = e.repository := by
  cases spells_of_parse_eq_ok h with
  | named => exact .inl rfl
  | unnamed => exact .inr ⟨rfl, rfl⟩

theorem parse_text (h : parse s = .ok e) : parse e.text = .ok e :=
  parse_eq_ok_of_spells (.named (spells_of_parse_eq_ok h).path)

theorem parse_repository (h : parse s = .ok e) (hsource : e.source = .github) :
    parse e.repository = .ok e := by
  have hpath := (spells_of_parse_eq_ok h).path
  obtain ⟨source, repository⟩ := e
  obtain rfl : source = .github := hsource
  exact parse_eq_ok_of_spells (.unnamed hpath)

/-- The default source in front can be left out. -/
theorem parse_of_parse_github (h : parse ("github:" ++ t) = .ok e) : parse t = .ok e := by
  have hnamed : sourceAndPath ("github:" ++ t) = (.github, t) := by
    rw [← name_github_colon]
    exact sourceAndPath_named .github t
  obtain ⟨hentry, _⟩ := (parse_eq_ok_iff hnamed).1 h
  have hread := parse_repository h (congrArg source hentry)
  rw [hentry] at hread ⊢
  exact hread

theorem sameUpToDefault_of_parse (hs : parse s = .ok e) (ht : parse t = .ok e) :
    SameUpToDefault s t := by
  rcases eq_text_or_of_parse hs with rfl | ⟨hsource, rfl⟩
  · rcases eq_text_or_of_parse ht with rfl | ⟨hsource, rfl⟩
    · exact .inl rfl
    · exact .inr (.inl (text_of_github hsource))
  · rcases eq_text_or_of_parse ht with rfl | ⟨_, rfl⟩
    · exact .inr (.inr (text_of_github hsource))
    · exact .inl rfl

theorem parse_of_sameUpToDefault {e' : ReleaseEntry} (h : SameUpToDefault s t)
    (hs : parse s = .ok e) (ht : parse t = .ok e') : e = e' := by
  rcases h with rfl | rfl | rfl
  · exact Except.ok.inj (hs.symm.trans ht)
  · exact Except.ok.inj ((parse_of_parse_github hs).symm.trans ht)
  · exact Except.ok.inj (hs.symm.trans (parse_of_parse_github ht))

/-- A text that is read as an entry has the source of the entry in front, or none if that is the
default, and the rest is its repository. Written in either way the entry is read again. Two texts
are read as one entry exactly if they are equal up to the default source in front. -/
theorem parse_text_round_trip {s : String} {e : ReleaseEntry} (h : parse s = .ok e) :
    (s = e.source.name ++ ":" ++ e.repository ∨ e.source = .github ∧ s = e.repository) ∧
      parse (e.source.name ++ ":" ++ e.repository) = .ok e ∧
      (e.source = .github → parse e.repository = .ok e) ∧
      ∀ t e', parse t = .ok e' → (e = e' ↔ SameUpToDefault s t) := by
  refine ⟨eq_text_or_of_parse h, parse_text h, parse_repository h, ?_⟩
  intro t e' ht
  constructor
  · rintro rfl
    exact sameUpToDefault_of_parse h ht
  · intro hsame
    exact parse_of_sameUpToDefault hsame h ht

/-- The namespace of an image may be called like a source, and hold a colon after it; the text of a
repository at the default source may do without it. -/
theorem parse_text_round_trip_gitlab :
    parse "dockerhub:gitlab:a/b" = .ok ⟨.dockerhub, "gitlab:a/b"⟩ ∧
      parse "a/b" = .ok ⟨.github, "a/b"⟩ ∧ parse "github:a/b" = .ok ⟨.github, "a/b"⟩ ∧
      ¬ SameUpToDefault "dockerhub:gitlab:a/b" "a/b" ∧ SameUpToDefault "a/b" "github:a/b" := by
  have himage : parse "dockerhub:gitlab:a/b" = .ok ⟨.dockerhub, "gitlab:a/b"⟩ := by decide
  have hunnamed : parse "a/b" = .ok ⟨.github, "a/b"⟩ := by decide
  obtain ⟨_, hnamed, _, hsame⟩ := parse_text_round_trip hunnamed
  obtain ⟨_, _, _, hother⟩ := parse_text_round_trip himage
  refine ⟨himage, hunnamed, hnamed, ?_, (hsame _ _ hnamed).1 rfl⟩
  intro h
  exact absurd ((hother _ _ hunnamed).2 h) (by decide)

end ReleaseEntry

end DashboardRefresh
