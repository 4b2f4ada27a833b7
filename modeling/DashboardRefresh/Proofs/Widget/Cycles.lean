import DashboardRefresh.Proofs.Refresh.Reports
import DashboardRefresh.Proofs.Widget.Storing

/-!
# Cycles

What an update cycle of some content delivers, whatever the network answers and whenever it is
cancelled: content of the same kind, with all of its data whenever the outcome keeps the data.
-/

namespace DashboardRefresh

namespace Content

/-- What the entry of the content promises: there are repositories to look up, and room for at least
one release. -/
def IsValid : Content → Prop
  | releases l => l.entries ≠ [] ∧ l.limit ≠ 0
  | _ => True

/-- All data of the content are there. -/
def IsFilled : Content → Prop
  | html _ => True
  | calendar _ grid => grid.isSome
  | monitor m => ∀ site ∈ m.sites, site.status.isSome
  | customApi _ document => document.isSome
  | releases l => l.releases ≠ []

/-- None of the data of the content are there. Static content never lacks them. -/
def IsBare : Content → Prop
  | html _ => False
  | calendar _ grid => grid = none
  | monitor m => ∀ site ∈ m.sites, site.status = none
  | customApi _ document => document = none
  | releases l => l.releases = []

end Content

/-- What a cycle of some content makes of it: content of the same kind, all data of which are there
if they are to be kept. Only releases give a notice. -/
structure Cycle.Completes (content : Content) (c : Cycle) : Prop where
  kind_eq : c.content.kind = content.kind
  isValid : c.content.IsValid
  isFilled : c.outcome.keepsData → c.content.IsFilled
  notice?_eq : content.kind ≠ .releases → c.outcome.notice? = none

namespace Content

variable {s : Surroundings}

theorem fetchedCycle_completes (api : ApiConfig) (document : Option Json)
    (fetched : Attempt (Except FetchError Json)) (hpartial : ∀ e, fetched.result = .error e →
      e.isPartial = false) :
    (fetchedCycle api document fetched).Completes (customApi api document) := by
  unfold fetchedCycle
  cases hresult : fetched.result with
  | ok j =>
    exact
      { kind_eq := rfl
        isValid := trivial
        isFilled := fun _ => rfl
        notice?_eq := fun _ => rfl }
  | error e =>
    have houtcome : Outcome.ofResult ((Except.error e : Except FetchError Json).map fun _ => ()) =
        .totalFailure e := by
      simp [Except.map, Outcome.ofResult, hpartial e hresult]
    dsimp only
    rw [houtcome]
    exact
      { kind_eq := rfl
        isValid := trivial
        isFilled := fun hkeeps => by cases hkeeps
        notice?_eq := fun _ => rfl }

/-- A request for a document never fails in part. -/
theorem isPartial_of_fetchDocument {α : Type} {network : Network} {read : String → Option α}
    {request : Except BuildError Request} {e : FetchError}
    (h : (fetchDocument network read request).result = .error e) : e.isPartial = false := by
  cases request with
  | error fault =>
    cases h
    rfl
  | ok r =>
    change readAnswer r.url read (r.fetch network).result = .error e at h
    unfold readAnswer at h
    split at h
    · cases h
      rfl
    · split at h
      · cases h
        rfl
      · split at h
        · cases h
        · cases h
          rfl

theorem apiCycle_completes (api : ApiConfig) (document : Option Json) (s : Surroundings)
    (answerCounts : Bool) :
    (apiCycle api document s answerCounts).Completes (customApi api document) := by
  have hfetched := fetchedCycle_completes api document (api.fetch s) fun _ =>
    isPartial_of_fetchDocument
  have hgivenUp (sent : List Request) (waited : Nat) (connected : Bool) :
      Cycle.Completes (customApi api document)
        { givenUpCycle api document with sent, waited, connected } :=
    { kind_eq := rfl
      isValid := trivial
      isFilled := fun hkeeps => by cases hkeeps
      notice?_eq := fun _ => rfl }
  unfold apiCycle
  dsimp only
  split
  · exact hfetched
  · split
    · exact hfetched
    · exact hgivenUp [] 0 false
  · split
    · exact hgivenUp _ _ _
    · exact hfetched

theorem monitorCycle_completes (m : Monitor) (s : Surroundings) :
    (monitorCycle m s).Completes (monitor m) where
  kind_eq := rfl
  isValid := trivial
  isFilled hkeeps := Monitor.isSome_status_of_store_check (Batch.keepsData_classify.1 hkeeps).1
  notice?_eq _ := Batch.notice?_classify Monitor.check_failedCount

theorem releasesCycle_completes (l : ReleaseList) (s : Surroundings)
    (hvalid : (releases l).IsValid) : (releasesCycle l s).Completes (releases l) where
  kind_eq := rfl
  isValid := hvalid
  isFilled hkeeps := by
    obtain ⟨hnone, hfailed⟩ := Batch.keepsData_classify.1 hkeeps
    have hsize : 0 < (l.lookUp s.network s.requestTimeout s.cancellation).batch.size := by
      unfold ReleaseList.lookUp at hnone ⊢
      rw [Batch.size, runAttempts_outputs hnone, List.length_map, List.length_map]
      exact List.length_pos_iff.2 hvalid.1
    apply ReleaseList.select_ne_nil hvalid.2
    exact runAttempts_kept_ne_nil hnone fun heq => hfailed ⟨hsize, heq⟩
  notice?_eq hkind := absurd rfl hkind

theorem calendarCycle_completes {startSunday : Bool} {grid : Option CalendarGrid} {c : Cycle}
    (h : calendarCycle startSunday s = .ok c) : c.Completes (calendar startSunday grid) := by
  unfold calendarCycle at h
  cases hread : s.clock.read with
  | error e =>
    rw [hread] at h
    cases h
  | ok now =>
    rw [hread] at h
    change (do
      let grid ← CalendarGrid.atInstant startSunday s.offset now
      return ⟨.success, calendar startSunday (some grid), true, [], 0, false⟩ :
        Except OutOfRange Cycle) = .ok c at h
    cases hgrid : CalendarGrid.atInstant startSunday s.offset now with
    | error e =>
      rw [hgrid] at h
      cases h
    | ok grid =>
      rw [hgrid] at h
      cases h
      exact
        { kind_eq := rfl
          isValid := trivial
          isFilled := fun _ => rfl
          notice?_eq := fun _ => rfl }

/-- A cycle of some content completes it. -/
theorem cycle_completes {content : Content} {answerCounts : Bool} {c : Cycle}
    (hvalid : content.IsValid) (h : content.cycle s answerCounts = some (.ok c)) :
    c.Completes content := by
  cases content with
  | html source => cases h
  | calendar startSunday grid => exact calendarCycle_completes (Option.some.inj h)
  | monitor m =>
    cases h
    exact monitorCycle_completes m s
  | customApi api document =>
    cases h
    exact apiCycle_completes api document s answerCounts
  | releases l =>
    cases h
    exact releasesCycle_completes l s hvalid

end Content

end DashboardRefresh
