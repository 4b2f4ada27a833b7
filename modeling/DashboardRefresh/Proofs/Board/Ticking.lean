import DashboardRefresh.Board.Ticker
import DashboardRefresh.Proofs.Board.PromptSweeps

/-!
# The ticks of a ticker

Ticks fall at the multiples of the period. All those that an advance of the time runs past see the
clock that it ends at, because a sweep is over at once where nothing hangs. The first of them leaves
nothing due at that time, and the others find nothing to do: however many ticks an advance crosses,
it comes to one sweep. A ticker goes on until it is stopped, or until a tick finds the clock before
the epoch, and changes nothing after that.
-/

namespace DashboardRefresh

namespace Clock

theorem advance_zero (c : Clock) : c.advance 0 = c := by
  ext
  simp [advance]

theorem advance_advance (c : Clock) (millis more : Nat) :
    (c.advance millis).advance more = c.advance (millis + more) := by
  ext
  simp only [advance]
  omega

theorem nanos_advance_mono (c : Clock) {millis more : Nat} (h : millis ≤ more) :
    (c.advance millis).nanos ≤ (c.advance more).nanos := by
  simp only [advance]
  omega

end Clock

namespace Dashboard

variable {d : Dashboard} {c : Conditions} {now : Instant}

theorem IsReachable.sweep (hd : d.IsReachable) (c : Conditions) (now : Instant) :
    (d.sweep c now).dashboard.IsReachable := by
  obtain ⟨config, built, events, hbuilt, rfl⟩ := hd
  exact ⟨config, built, events ++ [.sweep c now], hbuilt, built.run_append events _⟩

theorem not_due_of_dispatched_eq_zero (h : (d.sweep c now).dispatched = 0) :
    ∀ w ∈ d.widgets, w.isDue now = false :=
  fun w hw => eq_false_of_ne_true (List.countP_eq_zero.1 h w hw)

end Dashboard

namespace Ticker

/-! ## Sweeps one after the other -/

variable {d : Dashboard} {t : Ticker} {s : Situation} {clock : Clock} {now : Instant}

theorem sweeps_of_not_due (h : ∀ w ∈ d.widgets, w.isDue now = false) (clock : Clock) (n : Nat)
    (s : Situation) : sweeps clock now n s d = d := by
  cases n with
  | zero => rfl
  | succ n =>
    unfold sweeps
    rw [Dashboard.sweep_of_not_due h]
    rfl

/-- No sweep is left out by looking for the first one that finds nothing due. -/
theorem sweeps_succ (clock : Clock) (now : Instant) (n : Nat) (s : Situation) (d : Dashboard) :
    sweeps clock now (n + 1) s d =
      sweeps clock now n s.afterSweep (d.sweep (s.conditions clock) now).dashboard := by
  rw [sweeps]
  split
  · rename_i hnone
    have hdue := Dashboard.not_due_of_dispatched_eq_zero hnone
    rw [Dashboard.sweep_of_not_due hdue, sweeps_of_not_due hdue]
  · rfl

/-- Any number of sweeps by a clock that shows their instant come to one. -/
theorem sweeps_eq_sweep {n : Nat} (hd : d.IsReachable)
    (hs : (d.surroundings (s.conditions clock)).Shows now) (hn : 0 < n) :
    sweeps clock now n s d = (d.sweep (s.conditions clock) now).dashboard := by
  obtain ⟨n, rfl⟩ := Nat.exists_eq_add_one_of_ne_zero hn.ne'
  rw [sweeps_succ, sweeps_of_not_due (hd.not_due_after_sweep hs (Int.le_refl _))]

theorem sweeps_isReachable (hd : d.IsReachable) (clock : Clock) (now : Instant) (n : Nat)
    (s : Situation) : (sweeps clock now n s d).IsReachable := by
  induction n generalizing s d with
  | zero => exact hd
  | succ n ih =>
    rw [sweeps_succ]
    exact ih (hd.sweep _ now) s.afterSweep

/-! ## Ticks -/

/-- A tick falls after `earlier` and not after `later`. The first tick is one period after the
start. -/
def TickIn (period earlier later : Nat) : Prop :=
  ∃ k, 0 < k ∧ earlier < k * period ∧ k * period ≤ later

theorem ticksBetween_pos_iff {period : Nat} (hperiod : 0 < period) (earlier later : Nat) :
    0 < ticksBetween period earlier later ↔ TickIn period earlier later := by
  unfold ticksBetween TickIn
  rw [Nat.sub_pos_iff_lt]
  constructor
  · intro hlt
    exact ⟨later / period, Nat.zero_lt_of_lt hlt, (Nat.div_lt_iff_lt_mul hperiod).1 hlt,
      Nat.div_mul_le_self later period⟩
  · rintro ⟨k, _, hearlier, hlater⟩
    exact ((Nat.div_lt_iff_lt_mul hperiod).2 hearlier).trans_le
      ((Nat.le_div_iff_mul_le hperiod).2 hlater)

section Advance

variable {millis : Nat}

@[simp] theorem advance_period : (t.advance s millis).period = t.period := by
  unfold advance tick
  dsimp only
  split
  · rfl
  · split <;> rfl

@[simp] theorem advance_elapsed : (t.advance s millis).elapsed = t.elapsed + millis := by
  unfold advance tick
  dsimp only
  split
  · rfl
  · split <;> rfl

@[simp] theorem advance_clock : (t.advance s millis).clock = t.clock.advance millis := by
  unfold advance tick
  dsimp only
  split
  · rfl
  · split <;> rfl

theorem advance_of_finished (h : t.finished) :
    (t.advance s millis).finished ∧ (t.advance s millis).dashboard = t.dashboard := by
  unfold advance tick
  dsimp only
  rw [if_pos (.inl h)]
  exact ⟨h, rfl⟩

theorem advance_isReachable (hd : t.dashboard.IsReachable) :
    (t.advance s millis).dashboard.IsReachable := by
  unfold advance tick
  dsimp only
  split
  · exact hd
  · split
    · exact hd
    · exact sweeps_isReachable hd _ _ _ _

variable (hgoes : t.finished = false) (hperiod : 0 < t.period)
include hgoes hperiod

theorem advance_of_not_tickIn (h : ¬ TickIn t.period t.elapsed (t.elapsed + millis)) :
    (t.advance s millis).finished = false ∧ (t.advance s millis).dashboard = t.dashboard := by
  have hticks : ticksBetween t.period t.elapsed (t.elapsed + millis) = 0 :=
    Nat.eq_zero_of_not_pos (mt (ticksBetween_pos_iff hperiod _ _).1 h)
  unfold advance tick
  dsimp only
  rw [if_pos (.inr hticks)]
  exact ⟨hgoes, rfl⟩

/-- A tick before the epoch cannot read the clock. -/
theorem advance_of_beforeEpoch (h : TickIn t.period t.elapsed (t.elapsed + millis))
    (hepoch : (t.clock.advance millis).nanos < 0) :
    (t.advance s millis).finished ∧ (t.advance s millis).dashboard = t.dashboard := by
  have hticks := ((ticksBetween_pos_iff hperiod _ _).2 h).ne'
  have hread : (t.clock.advance millis).read = .error .outOfRange := if_pos hepoch
  unfold advance tick
  dsimp only
  rw [if_neg (by simp [hgoes, hticks]), hread]
  exact ⟨rfl, rfl⟩

theorem advance_of_read (h : TickIn t.period t.elapsed (t.elapsed + millis))
    (hread : (t.clock.advance millis).read = .ok now) :
    (t.advance s millis).finished = false ∧
      (t.advance s millis).dashboard = sweeps (t.clock.advance millis) now
        (ticksBetween t.period t.elapsed (t.elapsed + millis)) s t.dashboard := by
  have hticks := ((ticksBetween_pos_iff hperiod _ _).2 h).ne'
  unfold advance tick
  dsimp only
  rw [if_neg (by simp [hgoes, hticks]), hread]
  exact ⟨hgoes, rfl⟩

/-- However many ticks time runs past, they come to one sweep. -/
theorem advance_of_tickIn (hd : t.dashboard.IsReachable)
    (h : TickIn t.period t.elapsed (t.elapsed + millis))
    (hclock : (t.clock.advance millis).IsInner) (hepoch : 0 ≤ (t.clock.advance millis).nanos)
    (hzone : IsZoneOffset s.offset) :
    ∃ now, (t.clock.advance millis).read = .ok now ∧ (t.advance s millis).finished = false ∧
      (t.advance s millis).dashboard =
        (t.dashboard.sweep (s.conditions (t.clock.advance millis)) now).dashboard := by
  obtain ⟨now, hs, -⟩ := Surroundings.exists_shows hclock hepoch hzone
    (s := t.dashboard.surroundings (s.conditions (t.clock.advance millis)))
  obtain ⟨hfinished, hsweeps⟩ := advance_of_read hgoes hperiod h hs.read_eq
  have hticks := (ticksBetween_pos_iff hperiod _ _).2 h
  exact ⟨now, hs.read_eq, hfinished, hsweeps.trans (sweeps_eq_sweep hd hs hticks)⟩

omit hgoes in
/-- An advance is the end of a ticker only if a tick finds the clock before the epoch. -/
theorem advance_finished_iff (hlatest : (t.clock.advance millis).nanos ≤ Instant.latestNanos) :
    (t.advance s millis).finished ↔ t.finished ∨
      TickIn t.period t.elapsed (t.elapsed + millis) ∧ (t.clock.advance millis).nanos < 0 := by
  cases hgoes : t.finished with
  | true => simp [(advance_of_finished hgoes).1]
  | false =>
    by_cases htick : TickIn t.period t.elapsed (t.elapsed + millis)
    · rcases lt_or_ge (t.clock.advance millis).nanos 0 with hepoch | hepoch
      · simp [(advance_of_beforeEpoch hgoes hperiod htick hepoch).1, htick, hepoch]
      · let now : Instant := ⟨(t.clock.advance millis).nanos, le_trans (by decide) hepoch, hlatest⟩
        have hread : (t.clock.advance millis).read = .ok now := Clock.read_setTo (i := now) hepoch
        simp [(advance_of_read hgoes hperiod htick hread).1, hepoch]
    · simp [(advance_of_not_tickIn hgoes hperiod htick).1, htick]

end Advance

/-! ## Runs -/

/-- What happens to a ticker. -/
inductive Event where
  /-- Time goes on by some milliseconds. -/
  | advance (s : Situation) (millis : Nat)
  | stop

/-- The milliseconds that an event takes. -/
def Event.millis : Event → Nat
  | advance _ millis => millis
  | stop => 0

/-- The milliseconds that some events take. -/
def elapsedIn (events : List Event) : Nat := (events.map (·.millis)).sum

/-- The ticker after an event. -/
def after (t : Ticker) : Event → Ticker
  | .advance s millis => t.advance s millis
  | .stop => t.stop

def run (t : Ticker) (events : List Event) : Ticker := events.foldl after t

/-- One of the events runs past a tick while the clock shows a time before the epoch. -/
def TicksBeforeEpoch (period : Nat) (clock : Clock) (events : List Event) : Prop :=
  ∃ earlier s millis, earlier ++ [.advance s millis] <+: events ∧
    TickIn period (elapsedIn earlier) (elapsedIn earlier + millis) ∧
    (clock.advance (elapsedIn earlier + millis)).nanos < 0

theorem elapsedIn_concat (events : List Event) (e : Event) :
    elapsedIn (events ++ [e]) = elapsedIn events + e.millis := by
  simp [elapsedIn]

theorem run_concat (t : Ticker) (events : List Event) (e : Event) :
    t.run (events ++ [e]) = (t.run events).after e := by
  simp [run]

/-- The time of a ticker after some events. -/
theorem run_time (t : Ticker) (events : List Event) :
    (t.run events).period = t.period ∧
      (t.run events).elapsed = t.elapsed + elapsedIn events ∧
      (t.run events).clock = t.clock.advance (elapsedIn events) := by
  induction events using List.reverseRecOn with
  | nil => exact ⟨rfl, rfl, t.clock.advance_zero.symm⟩
  | append_singleton events e ih =>
    obtain ⟨hperiod, helapsed, hclock⟩ := ih
    rw [run_concat, elapsedIn_concat]
    cases e with
    | stop => exact ⟨hperiod, helapsed, hclock⟩
    | advance s millis =>
      refine ⟨?_, ?_, ?_⟩
      · rw [after, advance_period, hperiod]
      · rw [after, advance_elapsed, helapsed, Event.millis, Nat.add_assoc]
      · rw [after, advance_clock, hclock, Clock.advance_advance, Event.millis]

theorem run_isReachable (hd : t.dashboard.IsReachable) (events : List Event) :
    (t.run events).dashboard.IsReachable := by
  induction events using List.reverseRecOn with
  | nil => exact hd
  | append_singleton events e ih =>
    rw [run_concat]
    cases e with
    | stop => exact ih
    | advance => exact advance_isReachable ih

/-- A ticker that has come to its end changes nothing any more. -/
theorem run_of_finished (h : t.finished) (events : List Event) :
    (t.run events).finished ∧ (t.run events).dashboard = t.dashboard := by
  induction events using List.reverseRecOn with
  | nil => exact ⟨h, rfl⟩
  | append_singleton events e ih =>
    obtain ⟨hfinished, hsame⟩ := ih
    rw [run_concat]
    cases e with
    | stop => exact ⟨rfl, hsame⟩
    | advance =>
      obtain ⟨hafter, hdashboard⟩ := advance_of_finished hfinished
      exact ⟨hafter, hdashboard.trans hsame⟩

theorem ticksBeforeEpoch_concat {period : Nat} {clock : Clock} {events : List Event} {e : Event} :
    TicksBeforeEpoch period clock (events ++ [e]) ↔ TicksBeforeEpoch period clock events ∨
      TickIn period (elapsedIn events) (elapsedIn events + e.millis) ∧
        (clock.advance (elapsedIn events + e.millis)).nanos < 0 := by
  constructor
  · rintro ⟨earlier, s, millis, hprefix, htick, hepoch⟩
    rcases List.prefix_concat_iff.1 hprefix with heq | hprefix
    · obtain ⟨rfl, hlast⟩ := List.append_inj' heq rfl
      obtain rfl := List.singleton_inj.1 hlast
      exact .inr ⟨htick, hepoch⟩
    · exact .inl ⟨earlier, s, millis, hprefix, htick, hepoch⟩
  · rintro (⟨earlier, s, millis, hprefix, h⟩ | ⟨htick, hepoch⟩)
    · exact ⟨earlier, s, millis, hprefix.trans (List.prefix_append _ _), h⟩
    · cases e with
      | advance s millis => exact ⟨events, s, millis, List.prefix_rfl, htick, hepoch⟩
      | stop =>
        obtain ⟨k, _, hlt, hle⟩ := htick
        exact absurd (hlt.trans_le hle) (lt_irrefl _)

/-- The end of a ticker is the first stop, or the first tick before the epoch. -/
theorem run_finished_iff (hgoes : t.finished = false) (hperiod : 0 < t.period)
    (hstart : t.elapsed = 0) {events : List Event}
    (hlatest : (t.clock.advance (elapsedIn events)).nanos ≤ Instant.latestNanos) :
    (t.run events).finished ↔
      .stop ∈ events ∨ TicksBeforeEpoch t.period t.clock events := by
  induction events using List.reverseRecOn with
  | nil =>
    have hnone : ¬ TicksBeforeEpoch t.period t.clock [] := by
      rintro ⟨earlier, _, _, hprefix, _⟩
      simp at hprefix
    simp [run, hgoes, hnone]
  | append_singleton events e ih =>
    rw [elapsedIn_concat] at hlatest
    have hbefore := (t.clock.nanos_advance_mono (Nat.le_add_right _ e.millis)).trans hlatest
    rw [run_concat, ticksBeforeEpoch_concat, ← or_assoc]
    cases e with
    | stop => simp [after, stop]
    | advance s millis =>
      obtain ⟨hsame, helapsed, hclock⟩ := t.run_time events
      have htime : (t.run events).clock.advance millis =
          t.clock.advance (elapsedIn events + millis) := by
        rw [hclock, Clock.advance_advance]
      rw [after, advance_finished_iff (hsame ▸ hperiod) (htime ▸ hlatest), ih hbefore, hsame,
        helapsed, hstart, Nat.zero_add, htime]
      simp [Event.millis]

/-- In every run of a ticker of a reachable dashboard, on networks where nothing hangs, an advance
that crosses a tick comes to one sweep at the time that the clock shows then, which is over at once,
and one that does not changes nothing. The ticks are the multiples of the period that the timer
keeps for the interval, which is the interval if the timer can hold it. The ticker has come to its
end if and only if it was stopped or has crossed a tick before the epoch, and changes nothing after
that. -/
theorem run_sweeps_at_ticks (hd : d.IsReachable) (timer : Timer) {interval : Nat}
    (hinterval : 0 < interval) (clock : Clock) (events : List Event) (s : Situation) {millis : Nat}
    (hclock : (clock.advance (elapsedIn events + millis)).IsInner) (hzone : IsZoneOffset s.offset) :
    let period := timer.period interval
    let t := (start timer d interval clock).run events
    let later := clock.advance (elapsedIn events + millis)
    let next := t.advance s millis
    (interval ≤ timer.longest → period = interval) ∧
      (t.finished ↔ .stop ∈ events ∨ TicksBeforeEpoch period clock events) ∧
      (t.finished → ∀ further, (t.run further).finished ∧
        (t.run further).dashboard = t.dashboard) ∧
      (t.finished = false →
        (¬ TickIn period (elapsedIn events) (elapsedIn events + millis) →
          next.finished = false ∧ next.dashboard = t.dashboard) ∧
        (TickIn period (elapsedIn events) (elapsedIn events + millis) →
          (0 ≤ later.nanos → ∃ now, later.read = .ok now ∧ next.finished = false ∧
            let swept := t.dashboard.sweep (s.conditions later) now
            next.dashboard = swept.dashboard ∧ swept.waited = 0) ∧
          (later.nanos < 0 → next.finished ∧ next.dashboard = t.dashboard))) := by
  intro period t later next
  have hgoes : (start timer d interval clock).finished = false := beq_false_of_ne hinterval.ne'
  have hpos : 0 < period := timer.period_pos hinterval
  have hreachable : t.dashboard.IsReachable := run_isReachable hd events
  obtain ⟨hperiod, helapsed, htclock⟩ := (start timer d interval clock).run_time events
  have hperiod : t.period = period := hperiod
  have helapsed : t.elapsed = elapsedIn events := helapsed.trans (Nat.zero_add _)
  have hlater : t.clock.advance millis = later := by
    rw [htclock]
    exact clock.advance_advance _ _
  have hlatest : (clock.advance (elapsedIn events)).nanos ≤ Instant.latestNanos :=
    calc
      _ ≤ later.nanos := clock.nanos_advance_mono (Nat.le_add_right _ millis)
      _ ≤ Instant.latestNanos - Instant.margin := hclock.2
      _ ≤ Instant.latestNanos := by decide
  have htpos : 0 < t.period := hperiod ▸ hpos
  refine ⟨Timer.period_of_le, run_finished_iff hgoes hpos rfl hlatest,
    fun h => run_of_finished h, fun h => ?_⟩
  rw [← hperiod, ← helapsed, ← hlater]
  refine ⟨advance_of_not_tickIn h htpos, fun htick => ⟨fun hepoch => ?_, ?_⟩⟩
  · obtain ⟨now, hread, hgoesOn, hswept⟩ :=
      advance_of_tickIn h htpos hreachable htick (hlater ▸ hclock) hepoch hzone
    exact ⟨now, hread, hgoesOn, hswept, Dashboard.sweep_waited_of_isPrompt s.network.2 _ now⟩
  · exact advance_of_beforeEpoch h htpos htick

/-- A timer that counts nanoseconds in 64 bits, and keeps thirty years of 365 days in place of a
longer period. -/
def nanoTimer : Timer := ⟨Word.unsignedLimit / 1000000, 30 * 365 * 86400000, by decide⟩

/-- What a ticker meets without a network. -/
def offline : Situation := ⟨0, .unreachable, fun _ _ => true⟩

/-- A ticker of an agenda with an interval of one second sweeps once when the second and the third
tick fall due at once. -/
theorem run_sweeps_at_ticks_agenda :
    ∃ d now, Dashboard.ofConfig Dashboard.agenda = .ok d ∧ d.IsReachable ∧
      let clock : Clock := ⟨1716192000000000000⟩
      let t := (start nanoTimer d 1000 clock).run [.advance offline 1500]
      (clock.advance 3100).IsInner ∧ IsZoneOffset 0 ∧
        t.finished = false ∧ TickIn 1000 1500 3100 ∧ (clock.advance 3100).read = .ok now ∧
        (t.advance offline 1600).finished = false ∧
        (t.advance offline 1600).dashboard =
          (t.dashboard.sweep (offline.conditions (clock.advance 3100)) now).dashboard := by
  obtain ⟨d, hd⟩ : ∃ d, Dashboard.ofConfig Dashboard.agenda = .ok d := ⟨_, rfl⟩
  have hreachable : d.IsReachable := Dashboard.isReachable_run hd []
  let clock : Clock := ⟨1716192000000000000⟩
  have hinterval : 0 < 1000 := by decide
  have hinner : (clock.advance (1500 + 1600)).IsInner := by decide
  have hzone : IsZoneOffset 0 := by decide
  obtain ⟨_, _, _, hgoesOn⟩ := run_sweeps_at_ticks hreachable nanoTimer hinterval clock
    [.advance offline 1500] offline hinner hzone
  cases hd
  obtain ⟨_, hticks⟩ := hgoesOn (by decide +kernel)
  have htick : TickIn 1000 1500 3100 := ⟨2, by decide⟩
  obtain ⟨hsweep, _⟩ := hticks htick
  obtain ⟨now, hread, hfinished, hswept, _⟩ := hsweep (by decide)
  exact ⟨_, now, rfl, hreachable, hinner, hzone, rfl, htick, hread, hfinished, hswept⟩

/-- A custom API. -/
def feed : DashboardConfig :=
  { tickInterval := .ofSeconds 1
    requestTimeout := .ofSeconds 10
    widgets := [.leaf ⟨none, none, false, none, none⟩ (.customApi ⟨"http://a.test", [], none⟩)] }

/-- A ticker with an interval of 10¹⁵ milliseconds sweeps after thirty years, and one that meets a
tick a day before the epoch comes to its end. A sweep during which an API is not answered takes ten
times as long as an interval of a second. -/
theorem run_not_sweeps_at_intervals :
    (∃ d, Dashboard.ofConfig Dashboard.agenda = .ok d ∧ d.IsReachable ∧
      let sparse := start nanoTimer d 1000000000000000 ⟨1716192000000000000⟩
      let early := start nanoTimer d 1000 ⟨-86400000000000⟩
      ((sparse.clock.advance 946080000001).IsInner ∧
          ¬ TickIn 1000000000000000 0 946080000001 ∧
          (sparse.advance offline 946080000001).dashboard ≠ d) ∧
        (early.clock.advance 1000).IsInner ∧ TickIn 1000 0 1000 ∧
          (early.advance offline 1000).finished) ∧
      ∃ d, Dashboard.ofConfig feed = .ok d ∧ d.IsReachable ∧
        (d.sweep ⟨.setTo .epoch, 0, fun _ => .hangs, fun _ => true⟩ .epoch).waited = 10 * 1000 := by
  refine ⟨?_, ?_⟩
  · obtain ⟨d, hd⟩ : ∃ d, Dashboard.ofConfig Dashboard.agenda = .ok d := ⟨_, rfl⟩
    have hreachable : d.IsReachable := Dashboard.isReachable_run hd []
    cases hd
    refine ⟨_, rfl, hreachable, ⟨by decide, ?_, ?_⟩, by decide, ⟨1, by decide⟩, rfl⟩
    · rintro ⟨k, hk, _, hle⟩
      omega
    · intro hsame
      have hupdated := congrArg
        (·.widgets.map (·.leaves.map fun l => l.base.refresh.lastUpdated.isSome)) hsame
      have hnever : ([[true]] : List (List Bool)) = [[false]] := hupdated
      exact absurd hnever (by decide)
  · obtain ⟨d, hd⟩ : ∃ d, Dashboard.ofConfig feed = .ok d := ⟨_, rfl⟩
    have hreachable : d.IsReachable := Dashboard.isReachable_run hd []
    cases hd
    exact ⟨_, rfl, hreachable, by decide +kernel⟩

end Ticker

end DashboardRefresh
