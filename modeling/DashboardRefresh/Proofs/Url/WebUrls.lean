import DashboardRefresh.Proofs.Board.Building
import DashboardRefresh.Url.Parser

/-!
# URLs of the web

A URL that has been read under a scheme of the web has a host, which is not empty, and a path of
segments.
-/

namespace DashboardRefresh

/-! ## Hosts -/

namespace Host

variable {cs host : List Char}

theorem ipv4Text_ne_nil (address : Nat) : ipv4Text address ≠ [] := by
  unfold ipv4Text
  simp

theorem ne_nil_of_ipv4 (h : ipv4 cs = .ok host) : host ≠ [] := by
  unfold ipv4 at h
  split at h
  · cases h
    exact ipv4Text_ne_nil _
  · cases h

theorem ne_nil_of_ipv6 (h : ipv6 cs = .ok host) : host ≠ [] := by
  unfold ipv6 at h
  split at h
  · cases h
    exact List.cons_ne_nil _ _
  · cases h

theorem ne_nil_of_domain (h : domain cs = .ok host) : host ≠ [] := by
  unfold domain at h
  split at h
  · split at h
    · cases h
    · rename_i hne
      cases h
      exact mt List.isEmpty_iff.2 hne
  · cases h

/-- No host of the web is empty. -/
theorem ne_nil_of_parse (h : parse cs = .ok host) : host ≠ [] := by
  unfold parse at h
  split at h
  · split at h
    · exact ne_nil_of_ipv6 h
    · cases h
  · split at h
    · cases h
    · obtain ⟨name, hname, h⟩ := exists_of_bind_eq_ok h
      split at h
      · exact ne_nil_of_ipv4 h
      · cases h
        exact ne_nil_of_domain hname

end Host

namespace Url

/-! ## Schemes -/

/-- The schemes of requests. -/
def IsWeb (scheme : String) : Prop := scheme = "http" ∨ scheme = "https"

instance (scheme : String) : Decidable (IsWeb scheme) := inferInstanceAs (Decidable (_ ∨ _))

variable {text scheme : String} {cs : List Char} {followed : Bool} {u : Url}

theorem IsWeb.isSpecialScheme (h : IsWeb scheme) : isSpecialScheme scheme := by
  rcases h with rfl | rfl <;> decide

theorem IsWeb.ne_file (h : IsWeb scheme) : scheme ≠ "file" := by
  rcases h with rfl | rfl <;> decide

/-! ## Reading -/

/-- A URL with a host and a path of segments. -/
structure IsHierarchical (u : Url) : Prop where
  hasHost : u.hasHost
  exists_segments : ∃ path, u.path = .segments path

theorem IsHierarchical.host_ne_none (h : u.IsHierarchical) : u.host ≠ none := by
  intro hnone
  have hhost := h.hasHost
  unfold Url.hasHost at hhost
  rw [hnone] at hhost
  cases hhost

theorem exists_pathAfterAuthority (scheme : String) (cs : List Char) :
    ∃ path, pathAfterAuthority scheme cs = .segments path := by
  unfold pathAfterAuthority
  cases cs with
  | nil => exact ⟨_, rfl⟩
  | cons c rest => exact ⟨_, rfl⟩

theorem isHierarchical_of_afterSlashes (hspecial : isSpecialScheme scheme)
    (h : afterSlashes scheme cs followed = .ok u) : u.IsHierarchical := by
  unfold afterSlashes at h
  obtain ⟨⟨username, password, place⟩, _, h⟩ := exists_of_bind_eq_ok h
  dsimp only at h
  rw [if_pos hspecial] at h
  split at h
  · cases h
  · obtain ⟨host, hhost, h⟩ := exists_of_bind_eq_ok h
    obtain ⟨⟨port, path⟩, _, h⟩ := exists_of_bind_eq_ok h
    dsimp only at h
    split at h
    · cases h
    · cases h
      have hne := Host.ne_nil_of_parse hhost
      refine ⟨?_, exists_pathAfterAuthority _ _⟩
      unfold hasHost
      simpa using hne

theorem scheme_of_afterSlashes (h : afterSlashes scheme cs followed = .ok u) :
    u.scheme = scheme := by
  unfold afterSlashes at h
  obtain ⟨⟨username, password, place⟩, _, h⟩ := exists_of_bind_eq_ok h
  dsimp only at h
  split at h
  · cases h
  · split at h
    all_goals
      obtain ⟨host, _, h⟩ := exists_of_bind_eq_ok h
      obtain ⟨⟨port, path⟩, _, h⟩ := exists_of_bind_eq_ok h
      dsimp only at h
      split at h
      · cases h
      · cases h
        rfl

theorem scheme_of_ofFile (h : ofFile cs = .ok u) : u.scheme = "file" := by
  unfold ofFile at h
  dsimp only at h
  split at h
  · split at h
    · split at h
      · cases h
        rfl
      · split at h
        · cases h
          rfl
        · obtain ⟨host, _, h⟩ := exists_of_bind_eq_ok h
          cases h
          rfl
    · cases h
      rfl
  · cases h
    rfl

theorem isHierarchical_of_afterScheme (h : afterScheme scheme cs followed = .ok u)
    (hweb : IsWeb u.scheme) : u.IsHierarchical := by
  unfold afterScheme at h
  split at h
  · exact absurd (scheme_of_ofFile h) hweb.ne_file
  · split at h
    · rename_i hspecial
      exact isHierarchical_of_afterSlashes hspecial h
    · -- Here the scheme is none of the web, whatever follows it.
      rename_i hspecial
      suffices hscheme : u.scheme = scheme from
        absurd (hscheme ▸ hweb.isSpecialScheme) hspecial
      split at h
      · exact scheme_of_afterSlashes h
      · cases h
        rfl
      · cases h
        rfl

/-- A URL of the web has a host and a path of segments. -/
theorem isHierarchical_of_parse (h : parse text = .ok u) (hweb : IsWeb u.scheme) :
    u.IsHierarchical := by
  unfold parse at h
  split at h
  · cases h
  · obtain ⟨v, hv, h⟩ := exists_of_bind_eq_ok h
    cases h
    obtain ⟨hhost, hpath⟩ := isHierarchical_of_afterScheme hv hweb
    exact ⟨hhost, hpath⟩

end Url

end DashboardRefresh
