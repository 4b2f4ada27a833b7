import DashboardRefresh.Proofs.Board.Sweeps
import Mathlib.Algebra.BigOperators.Group.List.Basic
import Mathlib.Data.List.Nodup

/-!
# Overlapping sweeps update once

Several sweeps at one instant are under way, and their steps come in any order. The update of a
widget begins at most once, because a sweep passes over a widget that is being updated, and because
a widget that has been updated is not due at the instant any more. When all sweeps have returned,
just the widgets that were due have been updated, and the numbers that the sweeps count add up.
-/

namespace DashboardRefresh

/-- The clock can be read, lies fifteen days inside the range of instants, and does not show a time
before `now`. -/
def Surroundings.IsTimely (now : Instant) (s : Surroundings) : Prop :=
  s.clock.IsInner ∧ 0 ≤ s.clock.nanos ∧ IsZoneOffset s.offset ∧ now.nanos ≤ s.clock.nanos

instance (now : Instant) (s : Surroundings) : Decidable (s.IsTimely now) :=
  inferInstanceAs (Decidable (_ ∧ _ ∧ _ ∧ _))

theorem Surroundings.IsTimely.exists_shows {now : Instant} {s : Surroundings}
    (h : s.IsTimely now) : ∃ time, s.Shows time ∧ now ≤ time := by
  obtain ⟨hclock, hepoch, hzone, hle⟩ := h
  obtain ⟨time, hs, hnanos⟩ := Surroundings.exists_shows hclock hepoch hzone
  refine ⟨time, hs, ?_⟩
  rw [Instant.le_def, hnanos]
  exact hle

namespace Overlap

/-- The update that the step ends, if it ends one, meets a timely clock. -/
def Step.IsTimely (now : Instant) : Step → Prop
  | visit _ => True
  | finish _ s => s.IsTimely now

instance (now : Instant) : (step : Step) → Decidable (step.IsTimely now)
  | .visit _ => inferInstanceAs (Decidable True)
  | .finish _ s => inferInstanceAs (Decidable (s.IsTimely now))

namespace State

/-- The widget whose update a step begins, if it begins one. -/
def begins? (now : Instant) (st : State) : Step → Option Nat
  | .visit sweep => do
    let v ← st.visitors[sweep]?
    let slot ← st.slots[v.next]?
    if slot.busy.isNone && slot.widget.isDue now then some v.next else none
  | .finish .. => none

/-- The widget whose update a step ends, if it ends one. -/
def ends? (st : State) : Step → Option Nat
  | .visit _ => none
  | .finish widget _ => do
    let slot ← st.slots[widget]?
    if slot.busy.isSome then some widget else none

/-- What is to be seen of the steps of a run, one after the other. -/
def record (now : Instant) (seen? : State → Step → Option Nat) : State → List Step → List Nat
  | _, [] => []
  | st, step :: steps => (seen? st step).toList ++ record now seen? (st.step now step) steps

/-- The widgets whose updates begin in a run, one after the other. -/
def begun (now : Instant) : State → List Step → List Nat := record now (begins? now)

/-- The widgets whose updates end in a run, one after the other. -/
def ended (now : Instant) : State → List Step → List Nat := record now ends?

end State

/-- How often the update of the widget has begun and ended, and what its slot holds meanwhile. A
widget that was due is updated once, and each of its leaves at most once. -/
inductive Phase (now : Instant) (sweeps : Nat) (w : Widget) : Nat → Nat → Slot → Prop
  | waiting : Phase now sweeps w 0 0 ⟨w, none⟩
  | running {sweep : Nat} (hdue : w.isDue now) (hsweep : sweep < sweeps) :
      Phase now sweeps w 1 0 ⟨w, some sweep⟩
  | done {s : Surroundings} {time : Instant} (hdue : w.isDue now) (hs : s.Shows time)
      (hle : now ≤ time) :
      Phase now sweeps w 1 1
        ⟨w.mapLeaves fun l => if w.picks time l then (l.update s).leaf else l, none⟩

/-- The state of some sweeps after the updates of some widgets have begun and ended. -/
structure Coherent (now : Instant) (widgets : List Widget) (sweeps : Nat) (begun ended : List Nat)
    (st : State) : Prop where
  slots_length : st.slots.length = widgets.length
  visitors_length : st.visitors.length = sweeps
  phase : ∀ (i : Nat) (w : Widget) (slot : Slot), widgets[i]? = some w → st.slots[i]? = some slot →
    Phase now sweeps w (begun.count i) (ended.count i) slot
  /-- The updates of all due widgets that a sweep has passed have begun. -/
  passed : ∀ v ∈ st.visitors, ∀ (i : Nat) (w : Widget), i < v.next → widgets[i]? = some w →
    w.isDue now → begun.count i = 1
  begun_lt : ∀ i ∈ begun, i < widgets.length
  dispatched : (st.visitors.map (·.dispatched)).sum = begun.length

theorem count_concat (xs : List Nat) (i j : Nat) :
    (xs ++ [j]).count i = xs.count i + if i = j then 1 else 0 := by
  rw [List.count_append, List.count_singleton]
  by_cases hij : i = j
  · simp [hij]
  · simp [hij, Ne.symm hij]

theorem sum_set_add {l : List Nat} {i a : Nat} (h : l[i]? = some a) (b : Nat) :
    (l.set i (a + b)).sum = l.sum + b := by
  obtain ⟨hi, rfl⟩ := List.getElem?_eq_some_iff.1 h
  have hset := List.sum_set l i (l[i] + b)
  have hsame := List.sum_set l i l[i]
  rw [List.set_getElem_self] at hsame
  rw [if_pos hi] at hset hsame
  omega

/-- What one sweep counts more, all of them count more in all. -/
theorem sum_dispatched_set {visitors : List Visitor} {sweep : Nat} {v : Visitor}
    (hv : visitors[sweep]? = some v) (next b : Nat) :
    ((visitors.set sweep ⟨next, v.dispatched + b⟩).map (·.dispatched)).sum =
      (visitors.map (·.dispatched)).sum + b := by
  have hcount : (visitors.map (·.dispatched))[sweep]? = some v.dispatched := by
    rw [List.getElem?_map, hv]
    rfl
  rw [List.map_set, sum_set_add hcount]

variable {now : Instant} {widgets : List Widget} {sweeps : Nat} {begun ended : List Nat}
  {st : State}

theorem initial_coherent (now : Instant) (widgets : List Widget) (sweeps : Nat) :
    Coherent now widgets sweeps [] [] (State.initial widgets sweeps) where
  slots_length := by simp [State.initial]
  visitors_length := by simp [State.initial]
  phase i w slot hw hslot := by
    have hinitial : (State.initial widgets sweeps).slots[i]? = some ⟨w, none⟩ := by
      simp [State.initial, hw]
    obtain rfl := Option.some.inj (hinitial.symm.trans hslot)
    exact .waiting
  passed v hv i w hi := by
    obtain rfl := List.eq_of_mem_replicate hv
    exact absurd hi (Nat.not_lt_zero i)
  begun_lt := by simp
  dispatched := by simp [State.initial]

/-- A change to one slot is a change of phase of one widget. -/
theorem Coherent.phase_set (h : Coherent now widgets sweeps begun ended st) {j : Nat} {w : Widget}
    (hw : widgets[j]? = some w) {begun' ended' : List Nat} {slot' : Slot}
    (hbegun : ∀ i, i ≠ j → begun'.count i = begun.count i)
    (hended : ∀ i, i ≠ j → ended'.count i = ended.count i)
    (hphase : Phase now sweeps w (begun'.count j) (ended'.count j) slot') (i : Nat) (w' : Widget)
    (slot : Slot) (hw' : widgets[i]? = some w') (hslot : (st.slots.set j slot')[i]? = some slot) :
    Phase now sweeps w' (begun'.count i) (ended'.count i) slot := by
  have hlength := h.slots_length
  by_cases hij : i = j
  · subst hij
    obtain ⟨hi, _⟩ := List.getElem?_eq_some_iff.1 hw
    rw [List.getElem?_set_self (by omega)] at hslot
    obtain rfl := Option.some.inj hslot
    obtain rfl := Option.some.inj (hw.symm.trans hw')
    exact hphase
  · rw [List.getElem?_set_ne (Ne.symm hij)] at hslot
    rw [hbegun i hij, hended i hij]
    exact h.phase i w' slot hw' hslot

theorem Coherent.exists_widget (h : Coherent now widgets sweeps begun ended st) {i : Nat}
    {slot : Slot} (hslot : st.slots[i]? = some slot) :
    ∃ w, widgets[i]? = some w ∧ Phase now sweeps w (begun.count i) (ended.count i) slot := by
  obtain ⟨hi, _⟩ := List.getElem?_eq_some_iff.1 hslot
  have hw := List.getElem?_eq_getElem (h.slots_length ▸ hi)
  exact ⟨_, hw, h.phase i _ slot hw hslot⟩

/-- A sweep that goes on to its next widget has passed one widget more. -/
theorem Coherent.passed_set (h : Coherent now widgets sweeps begun ended st) {sweep : Nat}
    {v : Visitor} (hv : st.visitors[sweep]? = some v) {begun' : List Nat}
    (hother : ∀ i, i ≠ v.next → begun'.count i = begun.count i)
    (hnext : ∀ w, widgets[v.next]? = some w → w.isDue now → begun'.count v.next = 1)
    (dispatched : Nat) (u : Visitor) (hu : u ∈ st.visitors.set sweep ⟨v.next + 1, dispatched⟩)
    (i : Nat) (w : Widget) (hi : i < u.next) (hw : widgets[i]? = some w) (hdue : w.isDue now) :
    begun'.count i = 1 := by
  by_cases heq : i = v.next
  · subst heq
    exact hnext w hw hdue
  · rw [hother i heq]
    rcases List.mem_or_eq_of_mem_set hu with hu | rfl
    · exact h.passed u hu i w hi hw hdue
    · have hlt : i < v.next := by
        dsimp only at hi
        omega
      exact h.passed v (List.mem_of_getElem? hv) i w hlt hw hdue

/-! ## Phases -/

section Phases

variable {w : Widget} {b e : Nat} {slot : Slot}

/-- A widget that is due and not being updated has not been updated yet. -/
theorem Phase.eq_waiting (h : Phase now sweeps w b e slot) (hw : w.WellFormed)
    (hidle : slot.busy = none) (hdue : slot.widget.isDue now) :
    b = 0 ∧ e = 0 ∧ slot.widget = w := by
  cases h with
  | waiting => exact ⟨rfl, rfl, rfl⟩
  | running => cases hidle
  | done _ hs hle =>
    -- The clock showed no time before `now`, so that the next update is not due at `now`.
    have hnot := hw.isDue_update_eq_false hs hle
    rw [(w.update_eq hs).1] at hnot
    rw [hnot] at hdue
    cases hdue

/-- The update of a widget whose slot is busy is the first one, and has not ended yet. -/
theorem Phase.of_busy (h : Phase now sweeps w b e slot) (hbusy : slot.busy.isSome) :
    b = 1 ∧ e = 0 ∧ slot.widget = w ∧ w.isDue now := by
  cases h with
  | waiting | done => cases hbusy
  | running hdue => exact ⟨rfl, rfl, rfl, hdue⟩

/-- There is at most one update of a widget under way. -/
theorem Phase.begun_le (h : Phase now sweeps w b e slot) : b ≤ e + 1 := by
  cases h <;> omega

/-- A widget that a sweep has passed and that is not being updated any more has been updated if it
was due, and is not due now. -/
theorem Phase.of_idle (h : Phase now sweeps w b e slot) (hw : w.WellFormed)
    (hidle : ∀ sweep < sweeps, slot.busy ≠ some sweep) (hpassed : w.isDue now → b = 1) :
    b = (if w.isDue now then 1 else 0) ∧ e = b ∧ slot.widget.isDue now = false := by
  cases h with
  | waiting =>
    have hnot : w.isDue now = false := eq_false_of_ne_true fun hdue => by cases hpassed hdue
    rw [if_neg (by simp [hnot])]
    exact ⟨rfl, rfl, hnot⟩
  | running _ hsweep => exact absurd rfl (hidle _ hsweep)
  | done hdue hs hle =>
    have hnot := hw.isDue_update_eq_false hs hle
    rw [(w.update_eq hs).1] at hnot
    exact ⟨(if_pos hdue).symm, rfl, hnot⟩

/-- A sweep passes over a widget that was due only if its update has begun. -/
theorem Phase.begun_of_passed (h : Phase now sweeps w b e slot)
    (hpass : ¬ (slot.busy.isNone && slot.widget.isDue now)) (hdue : w.isDue now) : b = 1 := by
  cases h with
  | waiting => exact absurd hdue hpass
  | running | done => rfl

end Phases

/-! ## Steps -/

/-- A sweep begins the update of the widget that it visits. -/
theorem Coherent.begin (h : Coherent now widgets sweeps begun ended st)
    (hwidgets : ∀ w ∈ widgets, w.WellFormed) {sweep : Nat} {v : Visitor} {slot : Slot}
    (hv : st.visitors[sweep]? = some v) (hslot : st.slots[v.next]? = some slot)
    (hidle : slot.busy = none) (hdue : slot.widget.isDue now) :
    Coherent now widgets sweeps (begun ++ [v.next]) ended
      { st with
        slots := st.slots.set v.next { slot with busy := some sweep }
        visitors := st.visitors.set sweep ⟨v.next + 1, v.dispatched + 1⟩ } := by
  obtain ⟨w, hw, hphase⟩ := h.exists_widget hslot
  obtain ⟨hnext, _⟩ := List.getElem?_eq_some_iff.1 hw
  obtain ⟨hsweep, _⟩ := List.getElem?_eq_some_iff.1 hv
  obtain ⟨hbegun, hended, hwidget⟩ :=
    hphase.eq_waiting (hwidgets w (List.mem_of_getElem? hw)) hidle hdue
  have hother (i : Nat) (hi : i ≠ v.next) : (begun ++ [v.next]).count i = begun.count i := by
    rw [count_concat, if_neg hi, Nat.add_zero]
  have hself : (begun ++ [v.next]).count v.next = 1 := by
    rw [count_concat, if_pos rfl, hbegun]
  exact
    { slots_length := (List.length_set ..).trans h.slots_length
      visitors_length := (List.length_set ..).trans h.visitors_length
      phase := by
        refine h.phase_set hw hother (fun _ _ => rfl) ?_
        rw [hself, hended, hwidget]
        exact .running (hwidget ▸ hdue) (h.visitors_length ▸ hsweep)
      passed := h.passed_set hv hother (fun _ _ _ => hself) _
      begun_lt := by
        intro i hi
        rcases List.mem_append.1 hi with hi | hi
        · exact h.begun_lt i hi
        · rwa [List.mem_singleton.1 hi]
      dispatched := by
        rw [sum_dispatched_set hv, h.dispatched, List.length_append]
        rfl }

/-- A sweep passes over the widget that it visits. -/
theorem Coherent.pass (h : Coherent now widgets sweeps begun ended st) {sweep : Nat} {v : Visitor}
    {slot : Slot} (hv : st.visitors[sweep]? = some v) (hslot : st.slots[v.next]? = some slot)
    (hpass : ¬ (slot.busy.isNone && slot.widget.isDue now)) :
    Coherent now widgets sweeps begun ended
      { st with visitors := st.visitors.set sweep { v with next := v.next + 1 } } := by
  obtain ⟨w, hw, hphase⟩ := h.exists_widget hslot
  exact
    { h with
      visitors_length := (List.length_set ..).trans h.visitors_length
      passed := by
        refine h.passed_set hv (fun _ _ => rfl) (fun w' hw' hdue => ?_) v.dispatched
        obtain rfl := Option.some.inj (hw.symm.trans hw')
        exact hphase.begun_of_passed hpass hdue
      dispatched := (sum_dispatched_set hv (v.next + 1) 0).trans h.dispatched }

/-- The update of a widget ends. -/
theorem Coherent.finish (h : Coherent now widgets sweeps begun ended st) {j : Nat} {slot : Slot}
    (hslot : st.slots[j]? = some slot) (hbusy : slot.busy.isSome) {s : Surroundings}
    {time : Instant} (hs : s.Shows time) (hle : now ≤ time) (sent : List Request) (waited : Nat) :
    Coherent now widgets sweeps begun (ended ++ [j])
      { st with
        slots := st.slots.set j ⟨(slot.widget.update s).widget, none⟩
        sent := sent
        waited := waited } := by
  obtain ⟨w, hw, hphase⟩ := h.exists_widget hslot
  obtain ⟨hbegun, hended, hwidget, hdue⟩ := hphase.of_busy hbusy
  have hother (i : Nat) (hi : i ≠ j) : (ended ++ [j]).count i = ended.count i := by
    rw [count_concat, if_neg hi, Nat.add_zero]
  have hself : (ended ++ [j]).count j = 1 := by
    rw [count_concat, if_pos rfl, hended]
  exact
    { h with
      slots_length := (List.length_set ..).trans h.slots_length
      phase := by
        refine h.phase_set hw (fun _ _ => rfl) hother ?_
        rw [hself, hbegun, hwidget, (w.update_eq hs).1]
        exact .done hdue hs hle }

/-- So every step leads from a coherent state to a coherent state. -/
theorem Coherent.step (h : Coherent now widgets sweeps begun ended st)
    (hwidgets : ∀ w ∈ widgets, w.WellFormed) {step : Step} (hstep : step.IsTimely now) :
    Coherent now widgets sweeps (begun ++ (st.begins? now step).toList)
      (ended ++ (st.ends? step).toList) (st.step now step) := by
  cases step with
  | visit sweep =>
    change Coherent now widgets sweeps _ _ (st.visit now sweep)
    unfold State.begins? State.ends? State.visit
    cases hv : st.visitors[sweep]? with
    | none => simpa [hv] using h
    | some v =>
      cases hslot : st.slots[v.next]? with
      | none => simpa [hv, hslot] using h
      | some slot =>
        by_cases hbegins : slot.busy.isNone && slot.widget.isDue now
        · obtain ⟨hidle, hdue⟩ : slot.busy = none ∧ slot.widget.isDue now := by
            simpa using hbegins
          simpa [hv, hslot, hidle, hdue] using h.begin hwidgets hv hslot hidle hdue
        · have hneither : ¬ (slot.busy = none ∧ slot.widget.isDue now) := by
            simpa using hbegins
          simpa [hv, hslot, hneither] using h.pass hv hslot hbegins
  | finish j s =>
    obtain ⟨time, hs, hle⟩ := hstep.exists_shows
    change Coherent now widgets sweeps _ _ (st.finish j s)
    unfold State.begins? State.ends? State.finish
    cases hslot : st.slots[j]? with
    | none => simpa [hslot] using h
    | some slot =>
      by_cases hbusy : slot.busy.isSome
      · simpa [hslot, hbusy] using h.finish hslot hbusy hs hle _ _
      · simpa [hslot, hbusy] using h

/-- And so does every run. -/
theorem Coherent.run (h : Coherent now widgets sweeps begun ended st)
    (hwidgets : ∀ w ∈ widgets, w.WellFormed) {steps : List Step}
    (hsteps : ∀ step ∈ steps, step.IsTimely now) :
    Coherent now widgets sweeps (begun ++ st.begun now steps) (ended ++ st.ended now steps)
      (st.run now steps) := by
  -- The induction is on the steps that are left; the lists collect what the steps so far did.
  induction steps generalizing begun ended st with
  | nil => simpa [State.begun, State.ended, State.record, State.run] using h
  | cons step steps ih =>
    obtain ⟨hstep, hrest⟩ := List.forall_mem_cons.1 hsteps
    have hrun := ih (h.step hwidgets hstep) hrest
    rw [List.append_assoc, List.append_assoc] at hrun
    exact hrun

/-! ## Returned sweeps -/

theorem countP_eq_range {α : Type} (p : α → Bool) (xs : List α) :
    xs.countP p = (List.range xs.length).countP fun i => xs[i]?.any p := by
  have hmap : xs.map some = (List.range xs.length).map (xs[·]?) := by
    apply List.ext_getElem?
    intro i
    by_cases hi : i < xs.length <;> simp [hi]
  calc
    xs.countP p = (xs.map some).countP (Option.any p) := by
      rw [List.countP_map]
      rfl
    _ = _ := by
      rw [hmap, List.countP_map]
      rfl

section Returned

variable (h : Coherent now widgets sweeps begun ended st)
  (hwidgets : ∀ w ∈ widgets, w.WellFormed) (hsweeps : 0 < sweeps)
  (hreturned : ∀ sweep < sweeps, st.hasReturned sweep)
include h hwidgets hsweeps hreturned

/-- When all sweeps have returned, a widget that was due has been updated once and any other not at
all, and it is not due any more. -/
theorem Coherent.of_returned {i : Nat} {w : Widget} {slot : Slot} (hw : widgets[i]? = some w)
    (hslot : st.slots[i]? = some slot) :
    begun.count i = (if w.isDue now then 1 else 0) ∧ ended.count i = begun.count i ∧
      slot.widget.isDue now = false := by
  obtain ⟨hi, _⟩ := List.getElem?_eq_some_iff.1 hslot
  refine (h.phase i w slot hw hslot).of_idle (hwidgets w (List.mem_of_getElem? hw)) ?_ ?_
  · intro sweep hsweep
    exact (hreturned sweep hsweep).2 slot (List.mem_of_getElem? hslot)
  · intro hdue
    obtain ⟨v, hv, hlast⟩ := (hreturned 0 hsweeps).1
    exact h.passed v (List.mem_of_getElem? hv) i w (by omega) hw hdue

/-- The sweeps have begun as many updates as widgets were due. -/
theorem Coherent.dispatched_of_returned :
    (st.visitors.map (·.dispatched)).sum = widgets.countP (·.isDue now) := by
  have hcount (i : Nat) (hi : i < widgets.length) :
      begun.count i = if widgets[i].isDue now then 1 else 0 := by
    have hslot := List.getElem?_eq_getElem (l := st.slots) (i := i) (h.slots_length ▸ hi)
    exact (h.of_returned hwidgets hsweeps hreturned (List.getElem?_eq_getElem hi) hslot).1
  -- So the widgets whose updates have begun are those that were due, each of them once.
  have hnodup : begun.Nodup := by
    rw [List.nodup_iff_count_le_one]
    intro i
    by_cases hi : i < widgets.length
    · rw [hcount i hi]
      split <;> omega
    · rw [List.count_eq_zero_of_not_mem fun hmem => hi (h.begun_lt i hmem)]
      omega
  have hmem (i : Nat) : i ∈ begun ↔
      i ∈ (List.range widgets.length).filter fun i => widgets[i]?.any (·.isDue now) := by
    rw [List.mem_filter, List.mem_range]
    constructor
    · intro hbegun
      have hi := h.begun_lt i hbegun
      have hpos := List.count_pos_iff.2 hbegun
      rw [hcount i hi] at hpos
      refine ⟨hi, ?_⟩
      rw [List.getElem?_eq_getElem hi, Option.any_some]
      by_contra hdue
      rw [if_neg hdue] at hpos
      exact absurd hpos (by decide)
    · rintro ⟨hi, hdue⟩
      rw [List.getElem?_eq_getElem hi, Option.any_some] at hdue
      rw [← List.count_pos_iff, hcount i hi, if_pos hdue]
      exact Nat.one_pos
  have hperm := (List.perm_ext_iff_of_nodup hnodup (List.nodup_range.filter _)).2 hmem
  rw [h.dispatched, hperm.length_eq, countP_eq_range, List.countP_eq_length_filter]

/-- No widget is due at the instant any more when all sweeps have returned. -/
theorem Coherent.isDue_of_returned :
    ∀ w ∈ st.slots.map (·.widget), w.isDue now = false := by
  intro w' hw'
  obtain ⟨slot, hmem, rfl⟩ := List.mem_map.1 hw'
  obtain ⟨i, hslot⟩ := List.getElem?_of_mem hmem
  obtain ⟨w, hw, _⟩ := h.exists_widget hslot
  exact (h.of_returned hwidgets hsweeps hreturned hw hslot).2.2

end Returned

end Overlap

namespace Dashboard

variable {d : Dashboard} {now : Instant}

/-- At every moment of overlapping sweeps at `now` of a reachable dashboard, by clocks that show no
earlier time, each widget is waiting, being updated or updated, for the first time and only if it
was due; and the sweeps have counted each update that has begun. When all of them have returned,
just the widgets that were due have been updated, their number is what the sweeps have counted in
all, and one more sweep at `now` does nothing. Nor does a second sweep that follows the first. -/
theorem overlap_updates_once (hd : d.IsReachable) {sweeps : Nat} (hsweeps : 0 < sweeps)
    {steps : List Overlap.Step} (hsteps : ∀ step ∈ steps, step.IsTimely now) :
    let start := Overlap.State.initial d.widgets sweeps
    let st := start.run now steps
    let begun := start.begun now steps
    let ended := start.ended now steps
    (∀ (i : Nat) (w : Widget), d.widgets[i]? = some w →
        begun.count i ≤ ended.count i + 1 ∧
        ∃ slot, st.slots[i]? = some slot ∧
          Overlap.Phase now sweeps w (begun.count i) (ended.count i) slot) ∧
      (st.visitors.map (·.dispatched)).sum = begun.length ∧
      ((∀ sweep < sweeps, st.hasReturned sweep) →
        (∀ (i : Nat) (w : Widget), d.widgets[i]? = some w →
          begun.count i = (if w.isDue now then 1 else 0) ∧ ended.count i = begun.count i) ∧
        (st.visitors.map (·.dispatched)).sum = d.widgets.countP (·.isDue now) ∧
        ∀ c, (d.after (.overlap now sweeps steps)).sweep c now =
          ⟨d.after (.overlap now sweeps steps), 0, [], 0⟩) ∧
      ∀ c, (d.surroundings c).IsTimely now →
        ∀ c', (d.sweep c now).dashboard.sweep c' now = ⟨(d.sweep c now).dashboard, 0, [], 0⟩ := by
  have hwidgets : ∀ w ∈ d.widgets, w.WellFormed := hd.wellFormed
  have hcoherent := (Overlap.initial_coherent now d.widgets sweeps).run hwidgets hsteps
  rw [List.nil_append, List.nil_append] at hcoherent
  intro start st begun ended
  have hslot {i : Nat} {w : Widget} (hw : d.widgets[i]? = some w) :
      ∃ slot, st.slots[i]? = some slot := by
    obtain ⟨hi, _⟩ := List.getElem?_eq_some_iff.1 hw
    exact ⟨_, List.getElem?_eq_getElem (hcoherent.slots_length ▸ hi)⟩
  refine ⟨?_, hcoherent.dispatched, ?_, ?_⟩
  · intro i w hw
    obtain ⟨slot, hslot⟩ := hslot hw
    have hphase := hcoherent.phase i w slot hw hslot
    exact ⟨hphase.begun_le, slot, hslot, hphase⟩
  · intro hreturned
    refine ⟨?_, hcoherent.dispatched_of_returned hwidgets hsweeps hreturned, ?_⟩
    · intro i w hw
      obtain ⟨slot, hslot⟩ := hslot hw
      obtain ⟨hbegun, hended, _⟩ := hcoherent.of_returned hwidgets hsweeps hreturned hw hslot
      exact ⟨hbegun, hended⟩
    · exact sweep_of_not_due (hcoherent.isDue_of_returned hwidgets hsweeps hreturned)
  · intro c hc
    obtain ⟨time, hs, hle⟩ := hc.exists_shows
    exact sweep_of_not_due (hd.not_due_after_sweep hs hle)

/-- What the updates of overlapping sweeps meet, by a clock that counts some nanoseconds since the
epoch. -/
def offlineAt (nanos : Int) : Surroundings :=
  ⟨⟨nanos⟩, 0, .unreachable, .ofSeconds 10, .never, fun _ => true⟩

/-- Two sweeps take turns, and each update ends when the second sweep has passed it. -/
def turns : List Overlap.Step :=
  [.visit 0, .visit 1, .finish 0 (offlineAt 60000000000), .visit 0, .visit 1,
    .finish 1 (offlineAt 120000000000)]

/-- In an almanac they begin two updates, and count two. -/
theorem overlap_updates_once_almanac :
    ∃ d, ofConfig almanac = .ok d ∧ d.IsReachable ∧
      (∀ step ∈ turns, step.IsTimely .epoch) ∧
      let st := (Overlap.State.initial d.widgets 2).run .epoch turns
      (∀ sweep < 2, st.hasReturned sweep) ∧ st.visitors.map (·.dispatched) = [2, 0] ∧
        (st.visitors.map (·.dispatched)).sum = d.widgets.countP (·.isDue .epoch) := by
  obtain ⟨d, hd⟩ : ∃ d, ofConfig almanac = .ok d := ⟨_, rfl⟩
  have hreachable : d.IsReachable := isReachable_run hd []
  have htimely : ∀ step ∈ turns, step.IsTimely .epoch := by decide
  obtain ⟨_, _, hall, _⟩ := overlap_updates_once hreachable Nat.two_pos htimely
  have hreturned : ∀ sweep < 2,
      ((Overlap.State.initial d.widgets 2).run .epoch turns).hasReturned sweep := by
    cases hd
    intro sweep hsweep
    match sweep, hsweep with
    | 0, _ => exact ⟨⟨_, rfl, by decide⟩, by decide⟩
    | 1, _ => exact ⟨⟨_, rfl, by decide⟩, by decide⟩
  obtain ⟨_, hsum, _⟩ := hall hreturned
  cases hd
  exact ⟨_, rfl, hreachable, htimely, hreturned, rfl, hsum⟩

/-- A calendar and nothing else. -/
def diary : DashboardConfig :=
  { tickInterval := .ofSeconds 1
    requestTimeout := .ofSeconds 10
    widgets := [.leaf ⟨none, none, false, none, none⟩ (.calendar false)] }

/-- A second sweep follows the first, a day before the epoch. -/
def turnsBeforeEpoch : List Overlap.Step :=
  [.visit 0, .finish 0 (offlineAt (-86400000000000)), .visit 1,
    .finish 0 (offlineAt (-86400000000000))]

/-- A day before the epoch both sweeps update the calendar, and count two updates of one widget,
although the clock lies far inside the range of instants and never shows a time before that of the
sweeps. -/
theorem overlap_updates_twice_beforeEpoch :
    ∃ d, ofConfig diary = .ok d ∧ d.IsReachable ∧
      let now : Instant := ⟨-86400000000000, by decide, by decide⟩
      let start := Overlap.State.initial d.widgets 2
      let st := start.run now turnsBeforeEpoch
      now.IsInner ∧
        (∀ step ∈ turnsBeforeEpoch, ∀ widget s, step = .finish widget s →
          s.clock.IsInner ∧ IsZoneOffset s.offset ∧ now.nanos ≤ s.clock.nanos) ∧
        (∀ sweep < 2, st.hasReturned sweep) ∧
        (start.begun now turnsBeforeEpoch).count 0 = 2 ∧
        (st.visitors.map (·.dispatched)).sum ≠ d.widgets.countP (·.isDue now) := by
  obtain ⟨d, hd⟩ : ∃ d, ofConfig diary = .ok d := ⟨_, rfl⟩
  have hreachable : d.IsReachable := isReachable_run hd []
  cases hd
  refine ⟨_, rfl, hreachable, by decide, ?_, ?_, rfl, by decide⟩
  · rintro step hstep widget s rfl
    obtain ⟨_, hs⟩ : widget = 0 ∧ s = offlineAt (-86400000000000) := by
      simpa [turnsBeforeEpoch] using hstep
    rw [hs]
    exact ⟨by decide, by decide, by decide⟩
  · intro sweep hsweep
    match sweep, hsweep with
    | 0, _ => exact ⟨⟨_, rfl, by decide⟩, by decide⟩
    | 1, _ => exact ⟨⟨_, rfl, by decide⟩, by decide⟩

end Dashboard

end DashboardRefresh
