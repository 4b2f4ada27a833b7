import DashboardRefresh.Proofs.Widget.Verdicts

/-!
# Records of sites

What a monitor shows can be kept from one update to the next and written in place: link, text and
style of a site when its result comes in, and one flag for the whole monitor that every failing
result raises. Whatever the records and the flag said before, after the results of a batch of checks
that was not interrupted they say what the monitor shows, which is computed from the last statuses
alone.
-/

namespace DashboardRefresh

/-- What is configured of the sites of a monitor, in order. -/
def Monitor.configs (m : Monitor) : List SiteConfig := m.sites.map (·.config)

/-! ## Records -/

/-- What is kept of a site and written in place. -/
structure SiteRecord where
  config : SiteConfig
  status : Option SiteStatus
  link : String
  statusText : String
  statusStyle : String

namespace SiteRecord

/-- The record of what a site shows. -/
def ofSite (site : MonitoredSite) : SiteRecord :=
  ⟨site.config, site.status, site.link, site.statusText, site.statusStyle⟩

/-- The record after a check that gave a status. -/
def write (r : SiteRecord) (status : SiteStatus) : SiteRecord :=
  { r with
    status := some status
    link := match status.error, r.config.errorUrl with
      | some _, some errorUrl => errorUrl
      | _, _ => r.config.url
    statusText := status.text r.config.altStatusCodes
    statusStyle := status.style r.config.altStatusCodes }

/-- Nothing but the configuration of the site is left of a record that is written. -/
theorem write_eq_ofSite (r : SiteRecord) (status : SiteStatus) :
    r.write status = ofSite ⟨r.config, some status⟩ := rfl

end SiteRecord

/-- The records of all sites, and the flag of the monitor. -/
structure MonitorRecord where
  sites : List SiteRecord
  hasFailing : Bool

namespace MonitorRecord

/-- The records of what a monitor shows. -/
def ofMonitor (m : Monitor) : MonitorRecord := ⟨m.sites.map .ofSite, m.hasFailing⟩

/-- Write one result. The site at its position says which codes are no failure. -/
def writeResult (r : MonitorRecord) (result : Nat × Except FetchError SiteStatus) :
    MonitorRecord :=
  let status := match result.2 with
    | .ok status => status
    | .error e => ⟨none, false, 0, some e.message⟩
  { sites := r.sites.modify result.1 (·.write status)
    hasFailing := r.hasFailing ||
      r.sites[result.1]?.any fun site => status.isFailing site.config.altStatusCodes }

/-- Write the results of a batch, beginning with a lowered flag. -/
def merge (r : MonitorRecord) (b : Batch FetchError SiteStatus) : MonitorRecord :=
  b.results.foldl writeResult { r with hasFailing := false }

/-! ## Writing results one after the other -/

theorem modify_length_append {α : Type} (before : List α) (a : α) (rest : List α) (f : α → α) :
    (before ++ a :: rest).modify before.length f = before ++ f a :: rest := by
  induction before with
  | nil => rfl
  | cons b before ih => exact congrArg (b :: ·) ih

/-- Statuses as the results of consecutive positions, the first of which is `k`. -/
def resultsFrom (k : Nat) (statuses : List SiteStatus) :
    List (Nat × Except FetchError SiteStatus) :=
  (statuses.zipIdx k).map fun s => (s.2, .ok s.1)

theorem writeResult_length (before rest : List SiteRecord) (site : SiteRecord) (flag : Bool)
    (status : SiteStatus) :
    writeResult ⟨before ++ site :: rest, flag⟩ (before.length, .ok status) =
      ⟨(before ++ [site.write status]) ++ rest,
        flag || status.isFailing site.config.altStatusCodes⟩ := by
  have hsites := modify_length_append before site rest (·.write status)
  simp only [writeResult, hsites, List.append_assoc, List.singleton_append]
  simp

/-- The results of the sites that are left are written behind those that are done. -/
theorem foldl_writeResult (before rest : List SiteRecord) (flag : Bool)
    (statuses : List SiteStatus) (hlength : rest.length = statuses.length) :
    (resultsFrom before.length statuses).foldl writeResult ⟨before ++ rest, flag⟩ =
      ⟨before ++ List.zipWith SiteRecord.write rest statuses,
        flag || (rest.zip statuses).any fun s => s.2.isFailing s.1.config.altStatusCodes⟩ := by
  induction rest generalizing before flag statuses with
  | nil =>
    obtain rfl := List.length_eq_zero_iff.1 hlength.symm
    simp [resultsFrom]
  | cons site rest ih =>
    cases statuses with
    | nil => simp at hlength
    | cons status statuses =>
      have hnext := ih (before ++ [site.write status])
        (flag || status.isFailing site.config.altStatusCodes) statuses (Nat.succ.inj hlength)
      rw [List.length_append, List.length_singleton] at hnext
      calc
        (resultsFrom before.length (status :: statuses)).foldl writeResult
              ⟨before ++ site :: rest, flag⟩ =
            (resultsFrom (before.length + 1) statuses).foldl writeResult
              (writeResult ⟨before ++ site :: rest, flag⟩ (before.length, .ok status)) := rfl
        _ = _ := by
          rw [writeResult_length, hnext]
          simp [Bool.or_assoc]

/-! ## Batches of statuses -/

/-- A batch of statuses has them as its results, in order. -/
theorem results_eq_resultsFrom {b : Batch FetchError SiteStatus} {statuses : List SiteStatus}
    (hslots : List.zipWith Batch.slot b.outputs b.errors = statuses.map fun s => some (.ok s)) :
    b.results = resultsFrom 0 statuses := by
  rw [Batch.results, hslots, resultsFrom, List.zipIdx_map, List.filterMap_map,
    ← List.filterMap_eq_map]
  rfl

/-- Whatever the records of the sites said before, after a batch of statuses for all of them they
say what a monitor with these statuses shows. -/
theorem merge_eq_ofMonitor {r : MonitorRecord} {m : Monitor} {b : Batch FetchError SiteStatus}
    (statuses : List SiteStatus) (hconfigs : r.sites.map (·.config) = m.configs)
    (hstatuses : m.sites.map (·.status) = statuses.map some)
    (hresults : b.results = resultsFrom 0 statuses) : r.merge b = ofMonitor m := by
  have hlength : r.sites.length = statuses.length := by
    calc
      r.sites.length = m.sites.length := by
        simpa [Monitor.configs] using congrArg List.length hconfigs
      _ = statuses.length := by simpa using congrArg List.length hstatuses
  have hshown : List.zipWith (fun config status => MonitoredSite.mk config (some status))
      m.configs statuses = m.sites := by
    calc
      List.zipWith (fun config status => MonitoredSite.mk config (some status)) m.configs
            statuses =
          List.zipWith MonitoredSite.mk m.configs (statuses.map some) :=
        List.zipWith_map_right.symm
      _ = m.sites := by simp [← hstatuses, Monitor.configs, List.zipWith_map, List.zipWith_self]
  have hsites : List.zipWith SiteRecord.write r.sites statuses = m.sites.map .ofSite := by
    calc
      List.zipWith SiteRecord.write r.sites statuses =
          List.zipWith (fun config status => .ofSite ⟨config, some status⟩)
            (r.sites.map (·.config)) statuses := by
        rw [List.zipWith_map_left]
        exact congrArg (List.zipWith · r.sites statuses)
          (funext fun r => funext r.write_eq_ofSite)
      _ = (List.zipWith (fun config status => MonitoredSite.mk config (some status)) m.configs
            statuses).map .ofSite := by
        rw [hconfigs, List.map_zipWith]
      _ = m.sites.map .ofSite := by rw [hshown]
  have hflag : ((r.sites.zip statuses).any fun s => s.2.isFailing s.1.config.altStatusCodes) =
      m.hasFailing := by
    calc
      ((r.sites.zip statuses).any fun s => s.2.isFailing s.1.config.altStatusCodes) =
          ((r.sites.map (·.config)).zip statuses).any fun s =>
            s.2.isFailing s.1.altStatusCodes := by
        rw [List.zip_map_left, List.any_map]
        rfl
      _ = (List.zipWith (fun config status => MonitoredSite.mk config (some status)) m.configs
            statuses).any (·.isFailing) := by
        rw [hconfigs, ← List.map_uncurry_zip_eq_zipWith, List.any_map]
        rfl
      _ = m.hasFailing := by
        rw [hshown]
        rfl
  have hwritten := foldl_writeResult [] r.sites false statuses hlength
  unfold merge
  rw [hresults]
  refine hwritten.trans ?_
  rw [hsites, hflag]
  rfl

end MonitorRecord

end DashboardRefresh
