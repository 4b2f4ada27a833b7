import DashboardRefresh.Proofs.Board.Sweeps
import DashboardRefresh.Proofs.Widget.Waits

/-!
# Sweeps that take no time

On a network that keeps nobody waiting no request hangs. An update takes no time there, on its own
or in a group, and so a sweep is over at the moment at which it begins.
-/

namespace DashboardRefresh

variable {network : Network} {s : Surroundings}

namespace Network.IsPrompt

theorem starves (h : network.IsPrompt) (r : Request) : r.starves network = false := by
  obtain ⟨hhangs, hstalls⟩ := h r
  unfold Request.starves
  cases hanswer : network r with
  | hangs => exact absurd hanswer hhangs
  | stalls status => exact absurd hanswer (hstalls status)
  | response | brokenOff | closed | unreachable => exact Bool.and_false _

theorem hangs (h : network.IsPrompt) (r : Request) : r.hangs network = false :=
  Request.hangs_of_not_starves (h.starves r)

end Network.IsPrompt

namespace Content

theorem wait_of_isPrompt (h : s.network.IsPrompt) (content : Content) : content.wait s = 0 := by
  cases content with
  | html | calendar => rfl
  | monitor m =>
    have hnone : m.sites.filter (·.config.hangs s.network) = [] := by
      rw [List.filter_eq_nil_iff]
      intro site _
      simp [SiteConfig.hangs, h.hangs]
    rw [wait, hnone]
    rfl
  | customApi api document =>
    have hnone : api.hangs s = false := by simp [ApiConfig.hangs, h.starves]
    simp [wait, hnone]
  | releases l =>
    have hnone : l.hungCount s = 0 := by
      rw [ReleaseList.hungCount, List.countP_eq_zero]
      intro e _
      simp [ReleaseEntry.hangs, h.starves]
    rw [wait, hnone]
    exact Nat.zero_mul _

end Content

/-! ## Updates that are cancelled beforehand -/

theorem runAttempts_before_waited {ε α : Type} (workers : Nat)
    (attempts : List (Attempt (Except ε α))) :
    (runAttempts workers .before attempts).waited = 0 := by
  unfold runAttempts
  by_cases hne : (Job.ofAttempts workers attempts).inputs = []
  · rw [Job.execute_nil hne]
    rfl
  · rw [Job.execute_before hne]
    rfl

namespace Content

theorem cycle_waited_of_before {content : Content} {answerCounts : Bool} {c : Cycle}
    (hbefore : s.cancellation = .before) (hcycle : content.cycle s answerCounts = some (.ok c)) :
    c.waited = 0 := by
  cases content with
  | html => cases hcycle
  | calendar startSunday grid =>
    obtain ⟨now, _, hdrawn⟩ := exists_of_bind_eq_ok (Option.some.inj hcycle)
    obtain ⟨grid, _, hc⟩ := exists_of_bind_eq_ok hdrawn
    cases hc
    rfl
  | monitor m =>
    cases hcycle
    change (m.check s.network s.cancellation).waited = 0
    rw [hbefore]
    exact runAttempts_before_waited _ _
  | customApi api document =>
    cases hcycle
    unfold apiCycle
    rw [hbefore]
    dsimp only
    split
    · rename_i hanswered
      rw [Bool.and_eq_true, Bool.not_eq_true'] at hanswered
      obtain ⟨e, hfetch⟩ := fetch_of_offline hanswered.1
      rw [hfetch]
      rfl
    · rfl
  | releases l =>
    cases hcycle
    change (l.lookUp s.network s.requestTimeout s.cancellation).waited = 0
    rw [hbefore]
    exact runAttempts_before_waited _ _

end Content

namespace Leaf

theorem update_waited_of_before (hbefore : s.cancellation = .before) (l : Leaf) :
    (l.update s).waited = 0 := by
  unfold update
  split
  · rfl
  · rfl
  · rename_i c hcycle
    have hzero : c.waited = 0 := Content.cycle_waited_of_before hbefore hcycle
    unfold finish
    split <;> exact hzero

/-- An update takes no time where nothing hangs. -/
theorem update_waited_of_isPrompt (h : s.network.IsPrompt) (hsettled : s.IsSettled) (l : Leaf) :
    (l.update s).waited = 0 := by
  rcases hsettled with hnever | hbefore
  · rw [update_waited hnever, Content.wait_of_isPrompt h]
  · exact update_waited_of_before hbefore l

theorem updateIfDue_waited_of_isPrompt (h : s.network.IsPrompt) (hsettled : s.IsSettled) (l : Leaf)
    (now : Instant) : (l.updateIfDue s now).waited = 0 := by
  unfold updateIfDue
  split
  · exact l.update_waited_of_isPrompt h hsettled
  · rfl

end Leaf

/-! ## Sweeps -/

theorem foldl_max_eq_zero {times : List Nat} (h : ∀ time ∈ times, time = 0) :
    times.foldl max 0 = 0 :=
  Nat.le_zero.1 (Pool.foldl_max_le_iff.2 ⟨le_rfl, fun time htime => (h time htime).le⟩)

namespace Group

/-- Updates that end early without taking time do so at once. -/
theorem haltTime_eq_zero {updates : List Pending} {rest : List (Pending ⊕ Leaf)}
    (hrest : List.Forall₂ Settled updates rest) (h : ∀ p ∈ updates, p.update.waited = 0) :
    haltTime rest = 0 := by
  have hpending (p : Pending) (hp : .inl p ∈ rest) : p.update.waited = 0 := by
    induction hrest with
    | nil => cases hp
    | cons hsettled _ ih =>
      obtain ⟨hfirst, hothers⟩ := List.forall_mem_cons.1 h
      rcases List.mem_cons.1 hp with rfl | hp
      · cases hsettled
        exact hfirst
      · exact ih hothers hp
  unfold haltTime
  generalize htimes : rest.filterMap _ = times
  cases hmin : times.min? with
  | none => rfl
  | some time =>
    have htime : time ∈ times := List.min?_mem hmin
    rw [← htimes, List.mem_filterMap] at htime
    obtain ⟨p | l, hp, htime⟩ := htime
    · dsimp only at htime
      split at htime
      · rw [← Option.some.inj htime]
        exact hpending p hp
      · cases htime
    · cases htime

theorem update_waited_of_isPrompt (h : s.network.IsPrompt) (hsettled : s.IsSettled)
    (children : List Leaf) : (update s children).2.2 = 0 := by
  unfold update
  cases s.clock.read with
  | error => rfl
  | ok now =>
    have hchild (l : Leaf) : (l.updateIfDue s now).waited = 0 :=
      l.updateIfDue_waited_of_isPrompt h hsettled now
    dsimp only
    split
    · unfold settle
      dsimp only
      split
      · rfl
      · refine haltTime_eq_zero (runOffline_settled _) fun p hp => ?_
        rw [List.zipWith_map_right, List.zipWith_self, List.mem_map] at hp
        obtain ⟨l, _, rfl⟩ := hp
        exact hchild l
    · apply foldl_max_eq_zero
      simpa using fun l _ => hchild l

end Group

namespace Dashboard

/-- A sweep is over at once where nothing hangs. -/
theorem sweep_waited_of_isPrompt {c : Conditions} (h : c.network.IsPrompt) (d : Dashboard)
    (now : Instant) : (d.sweep c now).waited = 0 := by
  have hsettled := d.surroundings_isSettled c
  have hwidget (w : Widget) : (updateDue (d.surroundings c) now w).waited = 0 := by
    unfold updateDue
    split
    · cases w with
      | leaf l => exact l.update_waited_of_isPrompt h hsettled
      | group base children => exact Group.update_waited_of_isPrompt h hsettled children
    · rfl
  apply foldl_max_eq_zero
  simpa using fun w _ => hwidget w

end Dashboard

end DashboardRefresh
